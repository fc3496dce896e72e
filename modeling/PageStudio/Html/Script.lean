import PageStudio.Css.Sheet
import PageStudio.Document.Page
import PageStudio.Document.Settings

/-!
# Scripts

Pages come with a script that makes accordions, tabs and carousels work, and with the scripts that
the author adds to all pages and to one page.
-/

namespace PageStudio.Html

/-- The lines of the script that makes nodes work. -/
def behaviorLines : List String := [
  "// Built-in component interactivity",
  "document.addEventListener('DOMContentLoaded', function() \x7b",
  "  // Accordion",
  "  document.querySelectorAll('.accordion-title').forEach(function(title) \x7b",
  "    title.addEventListener('click', function() \x7b",
  "      var item = title.parentElement;",
  "      var content = title.nextElementSibling;",
  "      item.classList.toggle('open');",
  "      content.style.maxHeight = item.classList.contains('open') ? content.scrollHeight + 'px' : '0px';",
  "    \x7d);",
  "  \x7d);",
  "",
  "  // Tabs",
  "  document.querySelectorAll('.tabs-container').forEach(function(container) \x7b",
  "    container.addEventListener('click', function(e) \x7b",
  "      if (!e.target.matches('.tab-button')) return;",
  "      var index = e.target.dataset.tabIndex;",
  "      container.querySelectorAll('.tab-button').forEach(function(b) \x7b b.classList.remove('active'); \x7d);",
  "      e.target.classList.add('active');",
  "      container.querySelectorAll('.tab-content').forEach(function(c) \x7b",
  "        c.classList.toggle('active', c.dataset.tabContent === index);",
  "      \x7d);",
  "    \x7d);",
  "  \x7d);",
  "",
  "  // Carousel",
  "  document.querySelectorAll('.carousel-container').forEach(function(container) \x7b",
  "    var track = container.querySelector('.carousel-track');",
  "    if (!track) return;",
  "    var slides = Array.from(track.children);",
  "    if (slides.length === 0) return;",
  "    var currentIndex = 0;",
  "",
  "    var goToSlide = function(index) \x7b",
  "      var slideWidth = slides[0].getBoundingClientRect().width;",
  "      track.style.transform = 'translateX(-' + slideWidth * index + 'px)';",
  "      currentIndex = index;",
  "    \x7d;",
  "",
  "    var nextBtn = container.querySelector('.carousel-next');",
  "    var prevBtn = container.querySelector('.carousel-prev');",
  "    if (nextBtn) nextBtn.addEventListener('click', function() \x7b",
  "      goToSlide((currentIndex + 1) % slides.length);",
  "    \x7d);",
  "    if (prevBtn) prevBtn.addEventListener('click', function() \x7b",
  "      goToSlide((currentIndex - 1 + slides.length) % slides.length);",
  "    \x7d);",
  "  \x7d);",
  "\x7d);"]

/-- Lines, each with its end. -/
def linesText (lines : List String) : String := Css.concat (lines.map (· ++ "\n"))

/-- The script that all pages share. -/
def sharedScript (settings : Settings) : String :=
  linesText (behaviorLines ++ ["", "// Global Custom JavaScript"] ++ settings.globalJs.toList)

/-- The script of a page that stands alone. -/
def pageScript (settings : Settings) (page : Page) : String :=
  sharedScript settings ++ linesText (["", "// Page Specific JS"] ++ page.customJs.toList)

end PageStudio.Html
