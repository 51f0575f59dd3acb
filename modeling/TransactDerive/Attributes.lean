import TransactDerive.Syn

/-! # The helper attributes of the builder derive

`#[getter]` and `#[optional]` on a field are read through `parse_meta`, so any
meta form with that name counts; `#[gen_build_impl]` is read from the first
segment of a path alone; `#[builder_name = "..."]` names the builder, and any
other form of it is passed over.
-/

namespace TransactDerive

/-- `has_helper_attribue`: some attribute of the field parses as a meta with
this name. -/
def hasHelperAttribue (field : Field) (ident : Ident) : Bool :=
  (field.attrs.filterMap Attribute.parseMeta).any fun meta => meta.name == ident

def hasGetterAttr (field : Field) : Bool :=
  hasHelperAttribue field ⟨"getter", false⟩

def hasOptionalAttr (field : Field) : Bool :=
  hasHelperAttribue field ⟨"optional", false⟩

def hasGenBuildFnAttr : List Attribute → Bool
  | [] => false
  | attr :: attrs =>
    match attr.segments.head? with
    | none => false
    | some segment =>
      if segment = ⟨"gen_build_impl", false⟩ then true else hasGenBuildFnAttr attrs

def Attribute.startsWith (attr : Attribute) (ident : Ident) : Bool :=
  attr.segments.head? == some ident

theorem Attribute.head?_segments (attr : Attribute) :
    attr.segments.head? = some (attr.segments.head attr.segments_ne) := by
  obtain ⟨-, l, h, -⟩ := attr
  cases l with
  | nil => exact absurd rfl h
  | cons i l => rfl

/-- The early `return false` of `has_gen_build_fn_attr` is never taken: every
path has a first segment. -/
theorem hasGenBuildFnAttr_eq_any (attrs : List Attribute) :
    hasGenBuildFnAttr attrs = attrs.any (·.startsWith ⟨"gen_build_impl", false⟩) := by
  induction attrs with
  | nil => rfl
  | cons attr attrs ih =>
    simp only [hasGenBuildFnAttr, Attribute.head?_segments, List.any_cons,
      Attribute.startsWith, ih]
    split <;> simp_all

section Names
variable (xid : XidTables)

def extractBuilderName (attr : Attribute) : Gen (Option Ident) :=
  match attr.segments.head? with
  | none => pure none
  | some segment =>
    if segment ≠ ⟨"builder_name", false⟩ then pure none
    else
      match attr.parseMeta with
      | some (.nameValue _ (.str s)) => some <$> Ident.new xid s
      | _ => pure none

/-- The loop of `generate_builder_name`: the first attribute that names the builder. -/
def findBuilderName : List Attribute → Gen (Option Ident)
  | [] => pure none
  | attr :: attrs => do
    match ← extractBuilderName xid attr with
    | some name => pure (some name)
    | none => findBuilderName attrs

def generateBuilderName (d : DeriveInput) : Gen Ident := do
  match ← findBuilderName xid d.attrs with
  | some name => pure name
  | none => Ident.new xid (d.ident.toString ++ "Builder")

end Names

/-- The string of a well-formed `#[builder_name = "..."]`. -/
def builderNameLit (attr : Attribute) : Option String :=
  if attr.startsWith ⟨"builder_name", false⟩ then
    match attr.parseMeta with
    | some (.nameValue _ (.str s)) => some s
    | _ => none
  else none

/-- The name `generate_builder_name` asks `Ident::new` for: the string of the
first well-formed `#[builder_name = "..."]`, or `<Name>Builder`. -/
def builderNameString (d : DeriveInput) : String :=
  (d.attrs.findSome? builderNameLit).getD (d.ident.toString ++ "Builder")

variable {xid : XidTables}

theorem extractBuilderName_eq (attr : Attribute) :
    extractBuilderName xid attr =
      match builderNameLit attr with
      | some s => some <$> Ident.new xid s
      | none => pure none := by
  simp only [extractBuilderName, builderNameLit, Attribute.startsWith, Attribute.head?_segments,
    Option.some_beq_some, beq_iff_eq, ne_eq, ite_not]
  by_cases h : attr.segments.head attr.segments_ne = ⟨"builder_name", false⟩
  · simp only [h, if_true]
    split <;> rfl
  · simp [h]

theorem findBuilderName_eq (attrs : List Attribute) :
    findBuilderName xid attrs =
      match attrs.findSome? builderNameLit with
      | some s => some <$> Ident.new xid s
      | none => pure none := by
  induction attrs with
  | nil => rfl
  | cons attr attrs ih =>
    simp only [findBuilderName, extractBuilderName_eq, List.findSome?_cons]
    cases builderNameLit attr with
    | none => simpa using ih
    | some s =>
      simp only
      cases Ident.new xid s <;> rfl

/-- `generate_builder_name` calls `Ident::new` once, on `builderNameString`. -/
theorem generateBuilderName_eq (d : DeriveInput) :
    generateBuilderName xid d = Ident.new xid (builderNameString d) := by
  simp only [generateBuilderName, findBuilderName_eq, builderNameString]
  cases d.attrs.findSome? builderNameLit with
  | none => rfl
  | some s =>
    dsimp only [Option.getD_some]
    cases Ident.new xid s <;> rfl

theorem findSome?_builderNameLit_filter {p : Attribute → Bool} (attrs : List Attribute)
    (hp : ∀ a, p a = false → builderNameLit a = none) :
    (attrs.filter p).findSome? builderNameLit = attrs.findSome? builderNameLit := by
  induction attrs with
  | nil => rfl
  | cons a attrs ih =>
    cases h : p a
    · simp [List.filter_cons, h, ih, List.findSome?_cons, hp a h]
    · simp [List.filter_cons, h, ih, List.findSome?_cons]

theorem hasGenBuildFnAttr_filter {p : Attribute → Bool} (attrs : List Attribute)
    (hp : ∀ a, p a = false → a.startsWith ⟨"gen_build_impl", false⟩ = false) :
    hasGenBuildFnAttr (attrs.filter p) = hasGenBuildFnAttr attrs := by
  rw [hasGenBuildFnAttr_eq_any, hasGenBuildFnAttr_eq_any]
  induction attrs with
  | nil => rfl
  | cons a attrs ih =>
    cases h : p a
    · simp [List.filter_cons, h, ih, hp a h]
    · simp [List.filter_cons, h, ih]

end TransactDerive
