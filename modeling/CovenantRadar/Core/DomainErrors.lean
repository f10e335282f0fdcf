import CovenantRadar.Python.Text

/-!
# The errors of the application

Source `core/errors.py`: the one hierarchy of errors the services raise on purpose.
-/

namespace CovenantRadar

/-- Source `core/errors.py`: `ValidationError`, with the field it names. -/
structure ValidationError where
  message : Text
  field : Text
  deriving DecidableEq, Repr

/-- The subclasses of `DomainError`, and `raised` for an exception of another library. -/
inductive DomainErrorKind where
  | validationError
  | authorizationError
  | notFound
  | conflict
  | externalServiceError
  | raised
  deriving DecidableEq, Repr

/-- Source `DomainError`: its class, its message and the field at fault. -/
structure DomainError where
  kind : DomainErrorKind
  message : Text
  field : Option Text
  deriving DecidableEq, Repr

namespace DomainError

/-- `ValidationError(message, field=field)`. -/
def validationError (message field : String) : DomainError :=
  ⟨.validationError, message.toList, some field.toList⟩

/-- `AuthorizationError(message, field=field)`. -/
def authorizationError (message : Text) (field : String) : DomainError :=
  ⟨.authorizationError, message, some field.toList⟩

/-- `NotFound(message)`. -/
def notFound (message : Text) : DomainError := ⟨.notFound, message, none⟩

/-- `Conflict(message)`. -/
def conflict (message : Text) : DomainError := ⟨.conflict, message, none⟩

end DomainError

end CovenantRadar
