import BootServer.Text.CaseTable

/-!
# Lower case

Every character is replaced by its lower-case counterpart. The capital sigma has two: the final
one at the end of a word, that is, where a cased letter stands before it and none after it
(case-ignorable characters between them are looked through).
-/

namespace BootServer.Text

def CaseRun.lower? (run : CaseRun) (c : Char) : Option Char :=
  let n := c.toNat
  if run.first ≤ n && n ≤ run.last && (n - run.first) % run.step == 0 then
    some (Char.ofNat ((n : Int) + run.shift).toNat)
  else none

/-- The lower-case counterpart of a character, whatever stands around it. -/
def lowerChar (c : Char) : List Char :=
  if c.toNat < 0x80 then [c.toLower]
  else if c = '\u0130' then ['i', '\u0307']
  else [(caseRuns.findSome? fun run => run.lower? c).getD c]

/-- Is the first character that case rules do not look through one that has case? -/
def casedNext (cs : List Char) : Bool :=
  match cs.dropWhile (inRanges caseIgnorableRanges) with
  | [] => false
  | c :: _ => inRanges casedRanges c

/-- Lower case of the characters of `cs`, after the characters of `before` (nearest first). -/
def lowerFrom : List Char → List Char → List Char
  | _, [] => []
  | before, c :: rest =>
    (if c = 'Σ' then [if casedNext before && !casedNext rest then 'ς' else 'σ'] else lowerChar c)
      ++ lowerFrom (c :: before) rest

def lowercase (text : String) : String := String.ofList (lowerFrom [] text.toList)

end BootServer.Text
