/-!
# Cutting a text apart

* `pieces sep t`: the text between the occurrences of a separator, at least one
  piece (`pieces_ne_nil`);
* `cutAtFirst`, `cutAtLast`: what stands before and after the first or the last
  character of a kind;
* `lines`: the lines of a text, each ended by a line feed, with or without a
  carriage return before it.
-/

namespace Wordbook.Text

/-- One step of `pieces`, from the right: `c` starts a new piece or leads the next one. -/
def pieceStep (sep c : Char) (ps : List (List Char)) : List (List Char) :=
  if c = sep then [] :: ps
  else match ps with
    | [] => [[c]]
    | p :: ps => (c :: p) :: ps

/-- The pieces of a text between the occurrences of `sep`. -/
def pieces (sep : Char) (t : List Char) : List (List Char) := t.foldr (pieceStep sep) [[]]

@[simp] theorem pieces_nil (sep : Char) : pieces sep [] = [[]] := rfl

@[simp] theorem pieces_cons (sep c : Char) (t : List Char) :
    pieces sep (c :: t) = pieceStep sep c (pieces sep t) := rfl

theorem pieces_ne_nil (sep : Char) (t : List Char) : pieces sep t ≠ [] := by
  cases t with
  | nil => simp
  | cons c t =>
    rw [pieces_cons]
    unfold pieceStep
    split
    · simp
    · split <;> simp

/-- What stands before and after the first character that `p` holds of. -/
def cutAtFirst (p : Char → Bool) : List Char → Option (List Char × Char × List Char)
  | [] => none
  | c :: t =>
    if p c then some ([], c, t)
    else (cutAtFirst p t).map fun (before, d, after) => (c :: before, d, after)

/-- What stands before and after the last character that `p` holds of. -/
def cutAtLast (p : Char → Bool) (t : List Char) : Option (List Char × Char × List Char) :=
  (cutAtFirst p t.reverse).map fun (after, c, before) => (before.reverse, c, after.reverse)

/-- A line without the carriage return that ends it. -/
def dropReturn (line : List Char) : List Char :=
  if line.getLast? = some '\r' then line.dropLast else line

/-- The lines of a text. Each ends at a line feed or at the end of the text; a carriage return
right before the line feed belongs to the line end, and no line follows the last line feed. -/
def lines (t : List Char) : List (List Char) :=
  let ps := pieces '\n' t
  let ended := ps.dropLast.map dropReturn
  match ps.getLast? with
  | none => ended
  | some last => if last.isEmpty then ended else ended ++ [last]

end Wordbook.Text
