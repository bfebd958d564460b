/-!
# Finding and replacing text

Splitting a list of characters around the first place where a pattern stands, and replacing every
occurrence of a pattern from left to right. What has been put in is not searched again.
-/

namespace Mailroom.Text

/-- What follows `pattern` in `cs`, when `cs` begins with it. -/
def after? (pattern cs : List Char) : Option (List Char) :=
  match pattern, cs with
  | [], cs => some cs
  | _ :: _, [] => none
  | p :: ps, c :: cs => if p = c then after? ps cs else none

/-- What stands before and behind the first occurrence of a pattern. -/
def splitOnce (pattern : List Char) : List Char → Option (List Char × List Char)
  | [] => if pattern.isEmpty then some ([], []) else none
  | c :: cs =>
    match after? pattern (c :: cs) with
    | some rest => some ([], rest)
    | none => (splitOnce pattern cs).map fun (before, behind) => (c :: before, behind)

/-- Whether a pattern occurs. -/
def occursIn (pattern cs : List Char) : Bool := (splitOnce pattern cs).isSome

theorem after?_length {pattern cs rest : List Char} (h : after? pattern cs = some rest) :
    rest.length + pattern.length = cs.length := by
  fun_induction after? pattern cs with
  | case1 cs => simp_all
  | case2 => simp at h
  | case3 p ps cs ih => have := ih h; simp only [List.length_cons]; omega
  | case4 => simp at h

theorem splitOnce_length {pattern cs before behind : List Char}
    (h : splitOnce pattern cs = some (before, behind)) :
    before.length + pattern.length + behind.length = cs.length := by
  induction cs generalizing before with
  | nil =>
    simp only [splitOnce] at h
    split at h <;> simp_all
  | cons c cs ih =>
    simp only [splitOnce] at h
    split at h
    · rename_i rest hr
      have := after?_length hr
      simp only [Option.some.injEq, Prod.mk.injEq] at h
      obtain ⟨rfl, rfl⟩ := h
      simp only [List.length_nil, List.length_cons] at *
      omega
    · simp only [Option.map_eq_some_iff, Prod.exists, Prod.mk.injEq] at h
      obtain ⟨b, r, hs, rfl, rfl⟩ := h
      have := ih hs
      simp only [List.length_cons]
      omega

/-- Put `replacement` in the place of every occurrence of the pattern `p :: ps`. -/
def replaceAll (p : Char) (ps replacement cs : List Char) : List Char :=
  match _h : splitOnce (p :: ps) cs with
  | none => cs
  | some (before, behind) => before ++ replacement ++ replaceAll p ps replacement behind
termination_by cs.length
decreasing_by
  have := splitOnce_length ‹_›
  simp only [List.length_cons] at this
  omega

/-- The parts of a text between the occurrences of a character. -/
def splitAt (sep : Char) (cs : List Char) : List (List Char) :=
  match cs with
  | [] => [[]]
  | c :: cs =>
    if c = sep then [] :: splitAt sep cs
    else match splitAt sep cs with
      | [] => [[c]]
      | part :: parts => (c :: part) :: parts

end Mailroom.Text
