import TransactDerive.Syn

/-! # The shape of a field's type

`is_string` and `is_vec` look for a segment of that name anywhere in a path
type, while `extract_type_from_generic` reads the first generic argument of the
first segment only.
-/

namespace TransactDerive

/-- `is_type`: some segment of the path has this identifier. -/
def isType (ident : Ident) : Ty → Bool
  | .path segments => segments.any fun x => x.ident == ident
  | .other _ => false

def isString (ty : Ty) : Bool := isType ⟨"String", false⟩ ty

def isVec (ty : Ty) : Bool := isType ⟨"Vec", false⟩ ty

def noGeneric : Fault := .synError "Type does not have generic"

def extractTypeFromGeneric (ty : Ty) : Gen Ty := do
  let segment ← match ty with
    | .path segments => pure segments.head?
    | _ => throw noGeneric
  let args ← match segment with
    | some seg => pure seg.arguments
    | none => throw noGeneric
  let angledBracketArgs ← match args with
    | .angleBracketed args =>
      match args.head? with
      | some arg => pure arg
      | none => throw noGeneric
    | _ => throw noGeneric
  match angledBracketArgs with
  | .type t => pure t
  | _ => throw noGeneric

def PathArguments.firstType : PathArguments → Option Ty
  | .angleBracketed (.type t :: _) => some t
  | _ => Option.none

/-- The first generic argument of the first segment of a path, when it is a type. -/
def firstSegmentType : Ty → Option Ty
  | .path (seg :: _) => seg.arguments.firstType
  | _ => none

/-- The type argument of the `Vec` segment of a path, wherever that segment stands:
the `T` of `Vec<T>`, `std::vec::Vec<T>` or `::alloc::vec::Vec<T>`. -/
def vecArgument : Ty → Option Ty
  | .path segments =>
    (segments.find? (·.ident == ⟨"Vec", false⟩)).bind (·.arguments.firstType)
  | .other _ => none

theorem extractTypeFromGeneric_eq (ty : Ty) :
    extractTypeFromGeneric ty =
      match firstSegmentType ty with
      | some t => .ok t
      | none => .error noGeneric := by
  rcases ty with (_ | ⟨⟨_, _ | (_ | ⟨_ | _ | _, _⟩) | _⟩, _⟩) | _ <;> rfl

end TransactDerive
