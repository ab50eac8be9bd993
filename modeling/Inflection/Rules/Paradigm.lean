import Inflection.Rules.Failure

/-!
# Paradigms

A paradigm names one place within a form by a person and a quantity, such as the
first person singular.  It is written as the person, in digits, followed by the
quantity: `1sg`.
-/

namespace Inflection.Rules

/-- A person and a quantity. -/
structure Paradigm where
  person : String
  quantity : String
  deriving DecidableEq, Repr

namespace Paradigm

/-- The written form of a paradigm. -/
def key (paradigm : Paradigm) : String :=
  paradigm.person ++ paradigm.quantity

/-- Reads a written paradigm.  The person takes all digits at the start; neither
part is empty. -/
def parse (text : String) : Except FilterError Paradigm :=
  let digits := text.toList.takeWhile Char.isDigit
  let rest := text.toList.dropWhile Char.isDigit
  if digits.isEmpty || rest.isEmpty then .error (.notAParadigm text)
  else .ok ⟨String.ofList digits, String.ofList rest⟩

end Paradigm

end Inflection.Rules
