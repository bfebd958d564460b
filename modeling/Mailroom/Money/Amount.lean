import Mailroom.Json.Basic
import Mailroom.Number.Reading
import Mailroom.Number.Shortest
import Mailroom.Text.Blank
import Mailroom.Text.Find

/-!
# Amounts of money

An amount in a currency as it is written in a language. The amount is rounded, in its shortest
decimal form, to the places of the currency, and a number half-way between two goes to the even
one. The digits, the separators and the place of the currency are those of the language.
-/

namespace Mailroom.Money

/-- Where the mark of a currency stands. -/
inductive Placement where
  | inFront | behindLeftMarked | behindRightMarked
deriving DecidableEq, Repr

/-- How a language writes amounts of money: the digit zero, from which the other digits follow, the
separator of groups of three digits, the separator of the places, and the place of the currency. -/
structure Style where
  zero : Char
  group : Char
  point : Char
  placement : Placement
deriving DecidableEq, Repr

/-- The style of a number tag. Every tag but three is written as in English. -/
def Style.ofTag (tag : String) : Style :=
  if tag = "tr-TR" then ⟨'0', '.', ',', .inFront⟩
  else if tag = "ar-SA" then ⟨'\u0660', '\u066c', '\u066b', .behindRightMarked⟩
  else if tag = "he-IL" then ⟨'0', ',', '.', .behindLeftMarked⟩
  else ⟨'0', ',', '.', .inFront⟩

/-- The signs of currencies. -/
def signs : List (String × String) := [
  ("TRY", "₺"), ("USD", "$"), ("EUR", "€"), ("GBP", "£"), ("ILS", "₪"), ("JPY", "¥"),
  ("SAR", "ر.س.")]

/-- The code of a currency: ASCII capitals, without blanks around it. -/
def code (currency : String) : String :=
  String.ofList ((Text.trim currency).toList.map Char.toUpper)

/-- The number of places behind the point. -/
def places (code : String) : Nat := if code = "JPY" ∨ code = "KRW" then 0 else 2

/-- Put a separator in front of every third digit from the right. -/
def grouped (separator : Char) (digits : List Char) : List Char :=
  match digits with
  | [] => []
  | [d] => [d]
  | d :: rest =>
    if rest.length % 3 = 0 then d :: separator :: grouped separator rest
    else d :: grouped separator rest

/-- A digit of a language. -/
def Style.digit (s : Style) (d : Char) : Char :=
  Char.ofNat (s.zero.toNat + (d.toNat - '0'.toNat))

/-- The number `n / 10 ^ places` in a style. -/
def Style.number (s : Style) (places n : Nat) : List Char :=
  let digits := Number.zeroPadded (places + 1) n
  let whole := (digits.take (digits.length - places)).map s.digit
  let rest := (digits.drop (digits.length - places)).map s.digit
  grouped s.group whole ++ if places = 0 then [] else s.point :: rest

/-- What is written for the magnitude of an amount, and whether it is something else than zero. -/
def Style.magnitude (s : Style) (places : Nat) (amount : Float) : List Char × Bool :=
  if amount.isNaN then (['N', 'a', 'N'], true)
  else if amount.isInf then (['i', 'n', 'f'], true)
  else
    let n := (Number.shortest amount).roundHalfEven places
    (s.number places n, n ≠ 0)

/-- The mark that keeps a run of text written from the right to the left. -/
def rightMark : Char := '\u200f'

/-- The blank at which no line is broken. -/
def hardBlank : Char := '\u00a0'

/-- A place in a pattern that is held free for a part of an amount. -/
def slot (part : Char) : List Char := ['\x7b', part, '\x7d']

/-- Where sign, number and currency stand. Between the code of a currency and the number in English
order stands a blank, but not between its sign and the number. -/
def Placement.pattern (p : Placement) (isCode : Bool) : List Char :=
  match p with
  | .inFront => slot '-' ++ slot 'c' ++ (if isCode then [hardBlank] else []) ++ slot 'n'
  | .behindLeftMarked =>
    rightMark :: slot '-' ++ slot 'n' ++ [hardBlank, rightMark] ++ slot 'c'
  | .behindRightMarked =>
    rightMark :: slot '-' ++ slot 'n' ++ hardBlank :: slot 'c' ++ [rightMark]

/-- Put a text in the place that is held free for a part, wherever there is one. -/
def fillSlot (part : Char) (value cs : List Char) : List Char :=
  Text.replaceAll '\x7b' [part, '\x7d'] value cs

/-- Put sign, currency and number into a pattern, one after the other. -/
def Placement.assemble (p : Placement) (sign number currency : List Char) (isCode : Bool) :
    List Char :=
  fillSlot 'n' number (fillSlot 'c' currency (fillSlot '-' sign (p.pattern isCode)))

/-- An amount in a currency, in the style of a number tag. -/
def format (amount : Float) (currency tag : String) : String :=
  let code := code currency
  let style := Style.ofTag tag
  let (number, nonZero) := style.magnitude (places code) amount
  let sign := if amount < 0.0 && nonZero then ['-'] else []
  let mark := signs.lookup code
  String.ofList
    (style.placement.assemble sign number (mark.getD code).toList mark.isNone)

/-- The amount that a value stands for: a number, or a string that reads as a finite one. -/
def amount? : Json → Option Float
  | .num n => some n.toFloat
  | .str s => (Number.readFloat? (Text.trim s).toList).filter Float.isFinite
  | _ => none

end Mailroom.Money
