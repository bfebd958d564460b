import Mailroom.Mail.Characters
import Mailroom.Text.Blank
import Mailroom.Text.Find

/-!
# Replies of a relay

A reply is a code of three digits with a text. A reply of several lines repeats the code on each,
with a hyphen behind it on all lines but the last. The first digit says how the command fared.
-/

namespace Mailroom.Mail

/-- A reply: its code and the text of its lines. -/
structure Reply where
  code : List Char
  lines : List String
deriving DecidableEq, Repr

namespace Reply

/-- How a command fared: well, not at this time, or not at all. -/
inductive Outcome where
  | positive | transient | permanent
deriving DecidableEq, Repr

/-- What the first digit says. -/
def outcome (r : Reply) : Outcome :=
  match r.code with
  | '4' :: _ => .transient
  | '5' :: _ => .permanent
  | _ => .positive

/-- The whole text of a reply. -/
def text (r : Reply) : String := " ".intercalate r.lines

/-- The words of a line. -/
def wordsOf (line : String) : List String :=
  ((line.toList.splitBy fun a b => Text.isBlank a == Text.isBlank b).filter
    fun w => w.any (fun c => !Text.isBlank c)).map String.ofList

/-- The first word of a reply. -/
def firstWord? (r : Reply) : Option String := r.lines.head?.bind fun l => (wordsOf l).head?

/-- Why what was heard is no reply: something else stands there, or the codes of its lines
differ. -/
inductive Flaw where
  | misplaced (rest : List Char)
  | codesDiffer
deriving DecidableEq, Repr

/-- The wording of a flaw. -/
def Flaw.message : Flaw → String
  | .misplaced rest => s!"error Tag at: {String.ofList rest}"
  | .codesDiffer => "error Not at: "

/-- What has been heard so far: a reply, not enough for one, or something else. -/
inductive Heard where
  | reply (r : Reply)
  | unfinished
  | flawed (f : Flaw)
deriving DecidableEq, Repr

/-- The largest digit at each place of a code, and the least. -/
def codeDigits : List (Char × Char) := [('2', '5'), ('0', '5'), ('0', '9')]

/-- What follows a code, or what stands in the place of one. -/
def pastCode : List (Char × Char) → List Char → Except (Option (List Char)) (List Char)
  | [], cs => .ok cs
  | _ :: _, [] => .error none
  | (least, greatest) :: digits, c :: cs =>
    if least ≤ c ∧ c ≤ greatest then pastCode digits cs else .error (some (c :: cs))

/-- Read a reply. The codes and texts of the lines before stand in `before`, the last one first; the
number bounds the lines. -/
def readLines : Nat → List (List Char × String) → List Char → Heard
  | 0, _, _ => .unfinished
  | n + 1, before, cs =>
    match pastCode codeDigits cs with
    | .error none => .unfinished
    | .error (some rest) => .flawed (.misplaced rest)
    | .ok [] => .unfinished
    | .ok (mark :: rest) =>
      let code := cs.take 3
      if mark = '-' then
        match Text.splitOnce ['\r', '\n'] rest with
        | none => .unfinished
        | some (line, rest) => readLines n ((code, String.ofList line) :: before) rest
      else
        let finish (last : List String) : Heard :=
          if before.all (·.1 == code) then .reply ⟨code, (before.map (·.2)).reverse ++ last⟩
          else .flawed .codesDiffer
        if mark = ' ' then
          match Text.splitOnce ['\r', '\n'] rest with
          | none => .unfinished
          | some (line, _) => finish [String.ofList line]
        else
          match Text.after? ['\r', '\n'] (mark :: rest) with
          | some _ => finish []
          | none => .flawed (.misplaced (mark :: rest))

/-- What a text amounts to. -/
def ofText (cs : List Char) : Heard := readLines (cs.length + 1) [] cs

end Reply

end Mailroom.Mail
