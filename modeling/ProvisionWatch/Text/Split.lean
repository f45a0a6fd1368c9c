/-!
# Splitting text

Texts are cut at single characters.  `pieces` returns every stretch between
separators, empty ones included; `cut` returns what stands before and after
the first separator.

Main results:

- Theorem `pieces_ne_nil`: there is always at least one piece.
- Theorem `cut_eq_some_iff`: a cut happens at the first separator.
-/

namespace ProvisionWatch
namespace Text

/-- The stretches between separators, in order, empty ones included. -/
def pieces (sep : Char) : List Char → List (List Char)
  | [] => [[]]
  | c :: cs =>
      if c = sep then
        [] :: pieces sep cs
      else
        match pieces sep cs with
        | [] => [[c]]
        | w :: ws => (c :: w) :: ws

/-- The lines of a text.  A carriage return at the end of a line belongs to the line end. -/
def lines (text : String) : List String :=
  (pieces '\n' text.toList).map fun line =>
    String.ofList (if line.getLast? = some '\r' then line.dropLast else line)

/-- The stretches between spaces and line ends, without the empty ones. -/
def words (text : String) : List (List Char) :=
  ((pieces '\n' text.toList).flatMap (pieces ' ')).filter fun w => !w.isEmpty

/-- What stands before and after the first separator, if there is one. -/
@[simp]
def cut (sep : Char) : List Char → Option (List Char × List Char)
  | [] => none
  | c :: cs =>
      if c = sep then
        some ([], cs)
      else
        (cut sep cs).map fun (before, after) => (c :: before, after)

/-- What stands before and after the first place where `needle` occurs, if it does. -/
def cutAt (needle : List Char) : List Char → Option (List Char × List Char)
  | [] => if needle.isEmpty then some ([], []) else none
  | c :: cs =>
      if needle.isPrefixOf (c :: cs) then
        some ([], (c :: cs).drop needle.length)
      else
        (cutAt needle cs).map fun (before, after) => (c :: before, after)

/-- Whether `needle` occurs anywhere in the text. -/
def occursIn (needle : List Char) : List Char → Bool
  | [] => needle.isEmpty
  | c :: cs => needle.isPrefixOf (c :: cs) || occursIn needle cs

/-- Whether `needle` occurs anywhere in `text`. -/
def contains (text needle : String) : Bool :=
  occursIn needle.toList text.toList

/-- There is always a piece, if only an empty one. -/
theorem pieces_ne_nil (sep : Char) (cs : List Char) : pieces sep cs ≠ [] := by
  cases cs with
  | nil => simp [pieces]
  | cons c cs =>
      simp only [pieces]
      split
      · simp
      · split <;> simp

/-- A cut is made at the first separator, and nothing is lost but it. -/
theorem cut_eq_some_iff (sep : Char) (cs before after : List Char) :
    cut sep cs = some (before, after) ↔ cs = before ++ sep :: after ∧ sep ∉ before := by
  induction cs generalizing before with
  | nil => simp
  | cons c cs ih =>
      by_cases h : c = sep
      · subst h
        cases before with
        | nil => simp [eq_comm]
        | cons b bs =>
            simp only [cut, if_true, Option.some.injEq, Prod.mk.injEq, List.nil_eq,
              reduceCtorEq, false_and, List.cons_append, List.cons.injEq, List.mem_cons,
              not_or, false_iff, not_and, Decidable.not_not]
            rintro ⟨rfl, -⟩ h
            exact absurd rfl h
      · cases before with
        | nil => simp [h]
        | cons b bs =>
            simp only [cut, h, if_false, Option.map_eq_some_iff, Prod.exists, Prod.mk.injEq,
              List.cons.injEq, List.cons_append, List.mem_cons, not_or]
            constructor
            · rintro ⟨bs', after', hcut, ⟨rfl, rfl⟩, rfl⟩
              have := (ih bs').1 hcut
              exact ⟨⟨rfl, this.1⟩, fun e => h e.symm, this.2⟩
            · rintro ⟨⟨rfl, hcs⟩, -, hmem⟩
              exact ⟨bs, after, (ih bs).2 ⟨hcs, hmem⟩, ⟨rfl, rfl⟩, rfl⟩

end Text
end ProvisionWatch
