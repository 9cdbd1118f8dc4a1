import InfixCalc.Url

/-!
# Addresses that begin with a slash

An address that begins with a single slash brings no scheme and no host of its own,
so nothing of it can be malformed: it has a path, which begins with a slash as well.
-/

namespace InfixCalc.Url

/-- The address begins with one slash; a backslash behind it would be a second one. -/
def Rooted (address : Text) : Prop :=
  ∃ rest, clean address = 0x2F :: rest ∧ ∀ unit ∈ rest.head?, isSlash .web unit = false

/-- Resolving segments always leaves one. -/
theorem resolve_ne_nil
    (kind : Kind)
    {segments reversed : List Text}
    (some : reversed ≠ [] ∨ segments ≠ []) :
    resolve kind reversed segments ≠ [] := by
  induction segments generalizing reversed with
  | nil => simpa [resolve] using some
  | cons segment rest inner =>
    -- What is on the way may be taken back, but then a further segment follows.
    have more (shorter : List Text) :
        resolve kind (if rest.isEmpty then [] :: shorter else shorter) rest ≠ [] := by
      apply inner
      split
      · exact .inl (List.cons_ne_nil _ _)
      · rename_i later
        exact .inr (by simpa using later)
    rw [resolve]
    split
    · exact more _
    · split
      · exact more _
      · exact inner (.inl (List.cons_ne_nil _ _))

theorem pieces_ne_nil
    {α : Type}
    (separates : α → Bool)
    (members : List α) :
    pieces separates members ≠ [] := by
  cases members with
  | nil => exact List.cons_ne_nil _ _
  | cons member rest =>
    rw [pieces]
    split
    · exact List.cons_ne_nil _ _
    · split
      · exact List.cons_ne_nil _ _
      · exact List.cons_ne_nil _ _

theorem head?_absolutePath (address : Text) :
    (absolutePath .web address).head? = some 0x2F := by
  cases address with
  | nil => rfl
  | cons first rest =>
    have resolved : resolve .web [] (pieces (isSlash .web)
        (if isSlash .web first then rest else first :: rest)) ≠ [] :=
      resolve_ne_nil .web (.inr (pieces_ne_nil _ _))
    rw [absolutePath]
    cases segments : resolve .web [] (pieces (isSlash .web)
        (if isSlash .web first then rest else first :: rest)) with
    | nil => exact absurd segments resolved
    | cons segment others =>
      rw [List.flatMap_cons, List.cons_append, List.head?_cons]

theorem path?_of_rooted
    {address : Text}
    (rooted : Rooted address) :
    ∃ path, path? address = some path ∧ path.head? = some 0x2F := by
  rcases rooted with ⟨rest, cleaned, single⟩
  have relative : ∃ path, relative? (0x2F :: rest) = some path ∧ path.head? = some 0x2F := by
    refine ⟨_, ?_, head?_absolutePath (beforeQuery (0x2F :: rest))⟩
    cases rest with
    | nil => rfl
    | cons second others =>
      rw [relative?, single second rfl, Bool.and_false, if_neg Bool.false_ne_true]
  have noScheme : splitScheme? (0x2F :: rest) = none := rfl
  rw [path?, cleaned]
  simp only [noScheme]
  exact relative

end InfixCalc.Url
