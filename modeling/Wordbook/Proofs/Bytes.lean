import Mathlib.Data.List.Induction
import Mathlib.Data.List.ModifyLast
import Wordbook.Cell.Parts
import Wordbook.Proofs.Except
import Wordbook.Text.Utf8

/-!
# Texts cut at bytes

A block is found by the byte at which it begins, and a text can be cut between
two characters only. The cuts that are made around the block at the end of a cell
are possible in every text, and give what the cell is read as.

* `Text.cutAt?`, `Text.slice?`: cuts at bytes, where they are possible;
* `Cell.trailingBlockAt?_eq`, `Cell.partsAt?_eq`: the cuts around a block.
-/

namespace Wordbook

namespace Text

/-- The number of bytes of a text in UTF-8. -/
def byteLength (t : List Char) : Nat := (writeUtf8 t).length

/-- What stands before and after a byte. There is no cut beyond the end of a text, or inside a
character. -/
def cutAt? : Nat → List Char → Option (List Char × List Char)
  | 0, t => some ([], t)
  | _ + 1, [] => none
  | n + 1, c :: t =>
    if byteLength [c] ≤ n + 1 then
      (cutAt? (n + 1 - byteLength [c]) t).map fun (before, after) => (c :: before, after)
    else none

/-- What stands between two bytes, which have to be in order. -/
def slice? (t : List Char) (start stop : Nat) : Option (List Char) :=
  if start ≤ stop then do
    let (before, _) ← cutAt? stop t
    let (_, slice) ← cutAt? start before
    return slice
  else none

/-- The byte at which a text last occurs in another one. -/
def lastIndex? (part : List Char) : List Char → Option Nat
  | [] => none
  | c :: t =>
    match lastIndex? part t with
    | some n => some (byteLength [c] + n)
    | none => if part.isPrefixOf (c :: t) then some 0 else none

theorem byteLength_append (s t : List Char) :
    byteLength (s ++ t) = byteLength s + byteLength t := by
  rw [byteLength, writeUtf8, List.flatMap_append, List.length_append]
  rfl

theorem byteLength_cons (c : Char) (t : List Char) :
    byteLength (c :: t) = byteLength [c] + byteLength t :=
  byteLength_append [c] t

theorem byteLength_singleton_pos (c : Char) : 0 < byteLength [c] := by
  rw [byteLength, writeUtf8, List.flatMap_singleton]
  unfold Utf8.bytesOf
  dsimp only
  split_ifs <;> exact Nat.succ_pos _

theorem cutAt?_append (s t : List Char) : cutAt? (byteLength s) (s ++ t) = some (s, t) := by
  induction s with
  | nil => cases t <;> rfl
  | cons c s ih =>
    obtain ⟨n, hn⟩ := Nat.exists_eq_succ_of_ne_zero (n := byteLength (c :: s)) (by
      have hpos := byteLength_singleton_pos c
      rw [byteLength_cons]
      omega)
    have hlength := byteLength_cons c s
    have hrest : n + 1 - byteLength [c] = byteLength s := by omega
    rw [hn, List.cons_append, cutAt?, if_pos (by omega), hrest, ih]
    rfl

theorem slice?_append (s t u : List Char) :
    slice? (s ++ t ++ u) (byteLength s) (byteLength s + byteLength t) = some t := by
  rw [slice?, if_pos (Nat.le_add_right _ _), ← byteLength_append, cutAt?_append]
  show (cutAt? (byteLength s) (s ++ t)).bind _ = _
  rw [cutAt?_append]
  rfl

end Text

namespace Cell

open Text

theorem eq_of_cutAtBlock {t before after : List Char} (h : cutAtBlock t = some (before, after)) :
    t = before ++ ' ' :: '(' :: after := by
  induction t generalizing before with
  | nil => nomatch h
  | cons c t ih =>
    unfold cutAtBlock at h
    split at h
    · rename_i before' after' ht
      obtain ⟨rfl, rfl⟩ := Prod.mk.inj (Option.some.inj h)
      rw [ih ht, List.cons_append]
    · split at h
      · obtain ⟨rfl, rfl⟩ := Prod.mk.inj (Option.some.inj h)
        rfl
      · nomatch h

/-- What follows the start of the block ends with the parenthesis that ends the text. -/
theorem exists_concat_of_cutAtBlock {t before after : List Char}
    (h : cutAtBlock t = some (before, after)) (hlast : t.getLast? = some ')') :
    ∃ inner, after = inner ++ [')'] := by
  rw [eq_of_cutAtBlock h] at hlast
  cases after using List.reverseRecOn with
  | nil => simp at hlast
  | append_singleton inner c =>
    obtain rfl : c = ')' := by simpa [List.getLast?_cons] using hlast
    exact ⟨inner, rfl⟩

/-- The block begins where its start last occurs. -/
theorem lastIndex?_eq (t : List Char) :
    lastIndex? [' ', '('] t = (cutAtBlock t).map fun (before, _) => byteLength before := by
  induction t with
  | nil => rfl
  | cons c t ih =>
    rw [lastIndex?, ih]
    cases hcut : cutAtBlock t with
    | some cut =>
      unfold cutAtBlock
      rw [hcut]
      exact congrArg some (byteLength_cons c cut.1).symm
    | none =>
      unfold cutAtBlock
      rw [hcut]
      dsimp only [Option.map_none]
      split
      · rename_i hprefix
        obtain ⟨rest, hrest⟩ := List.isPrefixOf_iff_prefix.1 hprefix
        obtain ⟨rfl, rfl⟩ := List.cons_eq_cons.1 hrest
        rfl
      · rename_i hprefix
        split
        · exact absurd (by simp) hprefix
        · rfl

theorem slice?_before (before after : List Char) :
    slice? (before ++ after) 0 (byteLength before) = some before := by
  have h := slice?_append [] before after
  rwa [List.nil_append, show byteLength [] = 0 from rfl, Nat.zero_add] at h

/-- The last parenthesis opens before the one that ends the text. -/
theorem slice?_block (before block : List Char) :
    slice? (before ++ ' ' :: '(' :: (block ++ [')'])) (byteLength before + 2)
      (byteLength (before ++ ' ' :: '(' :: (block ++ [')'])) - 1) = some block := by
  have hstart : byteLength (before ++ [' ', '(']) = byteLength before + 2 :=
    byteLength_append before [' ', '(']
  have hwhole : before ++ ' ' :: '(' :: (block ++ [')']) =
      before ++ [' ', '('] ++ block ++ [')'] := by simp
  have hstop : byteLength (before ++ [' ', '('] ++ block ++ [')']) - 1 =
      byteLength (before ++ [' ', '(']) + byteLength block := by
    rw [byteLength_append, byteLength_append]
    rfl
  rw [hwhole, hstop, ← hstart]
  exact slice?_append _ _ _

/-- The block at the end of a text, cut out at bytes. -/
def trailingBlockAt? (t : List Char) : Option (Option (List Char × List Char)) :=
  let t := trimEnd t
  if t.getLast? = some ')' then
    match lastIndex? [' ', '('] t with
    | none => some none
    | some start => do
      let before ← slice? t 0 start
      let block ← slice? t (start + 2) (byteLength t - 1)
      return some (trimEnd before, block)
  else some none

theorem trailingBlockAt?_eq (t : List Char) : trailingBlockAt? t = some (trailingBlock t) := by
  unfold trailingBlockAt? trailingBlock
  dsimp only
  generalize trimEnd t = u
  by_cases hlast : u.getLast? = some ')'
  · rw [if_pos hlast, if_pos hlast, lastIndex?_eq]
    cases hcut : cutAtBlock u with
    | none => rfl
    | some cut =>
      obtain ⟨before, after⟩ := cut
      obtain ⟨block, rfl⟩ := exists_concat_of_cutAtBlock hcut hlast
      obtain rfl := eq_of_cutAtBlock hcut
      rw [Option.map_some]
      dsimp only
      rw [slice?_before, slice?_block]
      exact congrArg (fun block => some (some (trimEnd before, block))) List.dropLast_concat.symm
  · rw [if_neg hlast, if_neg hlast]

/-- The parts of a cell before its trailing block, and the block, cut off at a byte. -/
def splitBlockAt? (cell : List Char) : Option (List Char × List Char) :=
  match lastIndex? [' ', '('] cell with
  | some start => if cell.getLast? = some ')' then cutAt? start cell else some (cell, [])
  | none => some (cell, [])

/-- The parts of a cell, one after another. -/
def partsAt? (cell : List Char) (expected : Nat) :
    Option (Except CellError (List (List Char))) := do
  let cell := trim cell
  let (head, block) ← splitBlockAt? cell
  if head.contains ',' then
    let ps := (pieces ',' head).map trim
    if ps.length = expected then return .ok (ps.modifyLast (· ++ block))
    else return .error (.partCount expected ps.length)
  else return .ok [cell]

theorem splitBlockAt?_eq (cell : List Char) :
    splitBlockAt? cell = some (Parts.splitBlock cell) := by
  rw [splitBlockAt?, lastIndex?_eq, Parts.splitBlock]
  cases hcut : cutAtBlock cell with
  | none => rfl
  | some cut =>
    obtain ⟨before, after⟩ := cut
    obtain rfl := eq_of_cutAtBlock hcut
    dsimp only [Option.map_some]
    split
    · exact cutAt?_append before _
    · rfl

theorem modifyLast_eq {α : Type} {as : List α} (h : as ≠ []) (f : α → α) (a : α) :
    as.modifyLast f = as.dropLast ++ [f (as.getLastD a)] := by
  cases as using List.reverseRecOn with
  | nil => exact absurd rfl h
  | append_singleton as b => simp [List.modifyLast_concat]

theorem partsAt?_eq (cell : List Char) (expected : Nat) :
    partsAt? cell expected = some ((Parts.ofCell cell expected).map Parts.toList) := by
  unfold partsAt? Parts.ofCell
  dsimp only
  rw [splitBlockAt?_eq]
  show (if _ then _ else _) = _
  split
  · have hne : (pieces ',' (Parts.splitBlock (trim cell)).1).map trim ≠ [] := by
      simpa using pieces_ne_nil ',' _
    split
    · rw [modifyLast_eq hne]
      rfl
    · rfl
  · rfl

theorem getElem?_zero_of_partsAt? {cell : List Char} {expected : Nat} {ps : List (List Char)}
    (h : partsAt? cell expected = some (.ok ps)) :
    ∃ parts, Parts.ofCell cell expected = .ok parts ∧ ps[0]? = some parts.first := by
  rw [partsAt?_eq] at h
  obtain ⟨parts, hparts, rfl⟩ := map_eq_ok_iff.1 (Option.some.inj h)
  refine ⟨parts, hparts, ?_⟩
  obtain ⟨before, last⟩ := parts
  cases before <;> rfl

end Cell

end Wordbook
