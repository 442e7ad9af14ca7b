import Redaction.Policy

/-!
# Conditions on segments

A condition is a written test of a segment: of its name, of its value, or a combination of other
conditions. Where a policy holds an arbitrary test, a condition is data that can be read from a
request and turned into one.
-/

namespace Redaction

/-- A test of a segment, as data. -/
inductive Condition where
  | nameEmpty
  | nameHidden
  | warned
  | nameIs (name : String)
  | valueStarts (text : String)
  | valueEnds (text : String)
  | valueContains (text : String)
  | valueShorter (bytes : Nat)
  | not (condition : Condition)
  | all (conditions : List Condition)
  | any (conditions : List Condition)

namespace Condition

/-- A stretch of the second text equals the first one. -/
def occursIn (text : List Char) : List Char → Bool
  | [] => text.isEmpty
  | c :: cs => text.isPrefixOf (c :: cs) || occursIn text cs

mutual

/-- The segment meets the condition. Lengths count the bytes of the UTF-8 encoding. -/
def holds : Condition → Segment → Bool
  | .nameEmpty, s => s.name == ""
  | .nameHidden, s => s.nameHidden
  | .warned, s => s.nameWarning?.isSome
  | .nameIs name, s => s.name == name
  | .valueStarts text, s => text.toList.isPrefixOf s.value.toList
  | .valueEnds text, s => text.toList.isSuffixOf s.value.toList
  | .valueContains text, s => occursIn text.toList s.value.toList
  | .valueShorter bytes, s => decide (s.value.utf8ByteSize < bytes)
  | .not condition, s => !condition.holds s
  | .all conditions, s => allHold conditions s
  | .any conditions, s => anyHolds conditions s

/-- The segment meets every condition of the list. -/
def allHold : List Condition → Segment → Bool
  | [], _ => true
  | condition :: rest, s => condition.holds s && allHold rest s

/-- The segment meets some condition of the list. -/
def anyHolds : List Condition → Segment → Bool
  | [], _ => false
  | condition :: rest, s => condition.holds s || anyHolds rest s

end

/-- The policy that reveals the segments which meet the condition. -/
def policy (condition : Condition) : Policy := .predicate condition.holds

end Condition

end Redaction
