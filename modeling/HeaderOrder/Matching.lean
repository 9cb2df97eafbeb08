import HeaderOrder.Header

/-!
# The declaration of a definition

A definition belongs to the declaration with its own signature.  If there is none, the declarations
are tried in order for one whose simple name is the definition's name and whose signature has the
same parameters.
-/

namespace HeaderOrder

/-- Why no answer can be given on which declaration a definition belongs to. -/
inductive MatchError where
  /-- The signature of a declaration with the right name has no parameter list. -/
  | noParameterList (signature : Text)
  deriving Repr, DecidableEq

def MatchError.message : MatchError → Text
  | .noParameterList _ => "list index out of range".toList

namespace Declarations

/-- The first of the entries whose simple name is `name` and whose signature has the same
parameters. -/
def firstSimilar (name params : Text) : List (Text × Text) → Except MatchError (Option Text)
  | [] => .ok none
  | (signature, declared) :: rest =>
      if simpleName declared = name then
        match Signature.params? signature with
        | none => .error (.noParameterList signature)
        | some declaredParams =>
            if Params.same declaredParams params then
              .ok (some signature)
            else
              firstSimilar name params rest
      else
        firstSimilar name params rest

/-- The signature of the declaration that a definition with this name and these parameters belongs
to. -/
def signatureFor (declarations : Declarations) (name params : Text) :
    Except MatchError (Option Text) :=
  match declarations.get? (Signature.of name params) with
  | some _ => .ok (some (Signature.of name params))
  | none => firstSimilar name params declarations.entries

end Declarations

end HeaderOrder
