import Intake.Text.Quoted

/-!
# Detail: a value written out as a term

For a reader who debugs, a value is written as a term of names: a bare word, a name with arguments, or a name with named fields.
-/

namespace Intake

inductive Detail where
  | word (text : String)
  | call (name : String) (args : List Detail)
  | record (name : String) (fields : List (String × Detail))

namespace Detail

mutual

def text : Detail → String
  | .word s => s
  | .call name args => name ++ "(" ++ argsText args ++ ")"
  | .record name fields => name ++ " \x7b " ++ fieldsText fields ++ " \x7d"

def argsText : List Detail → String
  | [] => ""
  | [d] => d.text
  | d :: ds => d.text ++ ", " ++ argsText ds

def fieldsText : List (String × Detail) → String
  | [] => ""
  | [(n, d)] => n ++ ": " ++ d.text
  | (n, d) :: ds => n ++ ": " ++ d.text ++ ", " ++ fieldsText ds

end

/-- A text, quoted. -/
def quoted (s : String) : Detail := .word (Quoted.text s)

def int (i : Int) : Detail := .word (toString i)

def nat (n : Nat) : Detail := .word (toString n)

def bool (b : Bool) : Detail := .word (if b then "true" else "false")

end Detail

end Intake
