import TransactDerive.Attributes
import TransactDerive.TypeShape

/-! # The expansion of `#[derive(Builder)]`

The items `generate_builder_macro` emits, as a syntax of their own: each `quote!`
template is one constructor, with the holes it fills. On a struct with named
fields the expansion has a closed form: it is `namedBuilder` beside the getters,
unless `Ident::new` panics or a getter fails.
-/

namespace TransactDerive

/-- What a getter returns: `&str`, `&[#ty]` or `&#ty`. -/
inductive GetterRet where
  | str
  | slice (elem : Ty)
  | ref (ty : Ty)

/-- `pub fn #name(&self) -> #ret { &self.#name }`. -/
structure Getter where
  name : Ident
  ret : GetterRet

/-- `pub fn #name(mut self, value: #ty) -> Self { self.#field = Some(value); self }`. -/
structure Setter where
  name : Ident
  field : Ident
  ty : Ty

/-- A statement of the generated `build`: `let #f = self.#f.unwrap_or_default();`, or
`let #f = self.#f.ok_or_else(|| BuilderError::MissingField(stringify!(#f).into()))?;`. -/
inductive LetStmt where
  | unwrapOrDefault (field : Ident)
  | okOrElse (field : Ident)

/-- `impl Build for #builder_name`, whose `build` runs the statements and returns
`Ok(#struct_name { #(#field_names),* })`. -/
structure BuildImpl where
  builderName : Ident
  structName : Ident
  letStmts : List LetStmt
  fieldNames : List Ident

/-- What `generate_builder_struct` emits: `pub struct #builder_name` with a field
`#name: Option<#ty>` for each pair of `fields`, `new` and the setters, and the
`Build` impl when there is one. -/
structure BuilderStruct where
  name : Ident
  fields : List (Ident × Ty)
  setters : List Setter
  buildImpl : Option BuildImpl

/-- What `generate_struct_impl` emits: `impl #struct_name { #(#getters)* }`. -/
structure StructImpl where
  structName : Ident
  getters : List Getter

structure Expansion where
  structImpl : StructImpl
  builderStruct : BuilderStruct

def getStructFields (d : DeriveInput) : Gen Fields :=
  match d.data with
  | .struct fields => pure fields
  | _ => throw (.synError "builder is only compatible with stucts")

/-- The body of the loop of `generate_getters`, once the field's name is known. -/
def getterOf (name : Ident) (ty : Ty) : Gen Getter :=
  if isString ty then pure ⟨name, .str⟩
  else if isVec ty then do
    let ty ← extractTypeFromGeneric ty
    pure ⟨name, .slice ty⟩
  else pure ⟨name, .ref ty⟩

def fieldGetter (field : Field) : Gen Getter := do
  let name ← unwrap field.ident
  getterOf name field.ty

def generateGetters (fields : Fields) : Gen (List Getter) :=
  (fields.iter.filter hasGetterAttr).mapM fieldGetter

def generateStructImpl (d : DeriveInput) : Gen StructImpl := do
  let structName := d.ident
  let getters ← generateGetters (← getStructFields d)
  pure ⟨structName, getters⟩

def setterString (fieldName : Ident) : String := "with_" ++ fieldName.toString

theorem raw_of_identOk_setterString {xid : XidTables} {i : Ident}
    (h : identOk xid (setterString i) = true) : i.raw = false := by
  cases hr : i.raw
  · rfl
  · have hmem : '#' ∈ (setterString i).data := by simp [setterString, Ident.toString, hr]
    rw [identOk, identChars_of_mem_hash xid hmem] at h
    cases h

theorem setterString_inj {i j : Ident} (hi : i.raw = false) (hj : j.raw = false)
    (h : setterString i = setterString j) : i = j := by
  rw [setterString, setterString, String.ext_iff, String.data_append, String.data_append,
    List.append_cancel_left_eq, Ident.toString_of_not_raw _ hi,
    Ident.toString_of_not_raw _ hj] at h
  cases i; cases j
  simp_all [String.ext_iff]

theorem identOk_setterString {xid : XidTables} {i : Ident} (hr : i.raw = false)
    (h : identOk xid i.sym = true) : identOk xid (setterString i) = true := by
  rw [setterString, Ident.toString_of_not_raw _ hr, identOk, String.data_append]
  exact identChars_append_left xid rfl h

def letStmtOf (field : Field) (fieldName : Ident) : LetStmt :=
  if hasOptionalAttr field then .unwrapOrDefault fieldName else .okOrElse fieldName

section Generate
variable (xid : XidTables)

def builderField (field : Field) : Gen (Setter × (Ident × Ty)) := do
  let fieldName ← unwrap field.ident
  let ty := field.ty
  let setterName ← Ident.new xid ("with_" ++ (← unwrap field.ident).toString)
  pure (⟨setterName, fieldName, ty⟩, (fieldName, ty))

def fieldLet (field : Field) : Gen (LetStmt × Ident) := do
  let fieldName ← unwrap field.ident
  pure (letStmtOf field fieldName, fieldName)

def generateBuildImpl (d : DeriveInput) : Gen BuildImpl := do
  let structName := d.ident
  let builderName ← generateBuilderName xid d
  let fields ← getStructFields d
  let stmts ← fields.iter.mapM fieldLet
  pure ⟨builderName, structName, stmts.map Prod.fst, stmts.map Prod.snd⟩

def generateBuilderStruct (d : DeriveInput) : Gen BuilderStruct := do
  let builderName ← generateBuilderName xid d
  let items ← (← getStructFields d).iter.mapM (builderField xid)
  let buildImpl ←
    if hasGenBuildFnAttr d.attrs then some <$> generateBuildImpl xid d else pure none
  pure ⟨builderName, items.map Prod.snd, items.map Prod.fst, buildImpl⟩

def generateBuilderMacro (d : DeriveInput) : Gen Expansion := do
  let structImpl ← generateStructImpl d
  let builderStruct ← generateBuilderStruct xid d
  pure ⟨structImpl, builderStruct⟩

inductive MacroOutput where
  | tokens (e : Expansion)
  | compileError (msg : String)

/-- `derive_builder`: a `syn::Error` becomes a `compile_error!`, a panic stays one. -/
def deriveBuilder (d : DeriveInput) : Gen MacroOutput :=
  match generateBuilderMacro xid d with
  | .ok e => pure (.tokens e)
  | .error (.synError msg) => pure (.compileError msg)
  | .error .panic => throw .panic

end Generate

/-! ## Structs with named fields -/

def namedBuildImpl (d : DeriveInput) (fs : List NamedField) : BuildImpl where
  builderName := ⟨builderNameString d, false⟩
  structName := d.ident
  letStmts := fs.map fun f => letStmtOf f.toField f.ident
  fieldNames := fs.map (·.ident)

/-- The builder emitted for a struct with named fields. -/
def namedBuilder (d : DeriveInput) (fs : List NamedField) : BuilderStruct where
  name := ⟨builderNameString d, false⟩
  fields := fs.map fun f => (f.ident, f.ty)
  setters := fs.map fun f => ⟨⟨setterString f.ident, false⟩, f.ident, f.ty⟩
  buildImpl := if hasGenBuildFnAttr d.attrs then some (namedBuildImpl d fs) else none

def namedIdentsOk (xid : XidTables) (d : DeriveInput) (fs : List NamedField) : Bool :=
  identOk xid (builderNameString d) && fs.all fun f => identOk xid (setterString f.ident)

section Named
variable {xid : XidTables} {d : DeriveInput} {fs : List NamedField}

theorem raw_of_namedIdentsOk (hok : namedIdentsOk xid d fs = true) :
    ∀ f ∈ fs, f.ident.raw = false := fun f hf =>
  raw_of_identOk_setterString ((List.all_eq_true.mp (Bool.and_eq_true_iff.mp hok).2) f hf)

theorem generateGetters_named (fs : List NamedField) :
    generateGetters (.named fs) =
      (fs.filter (hasGetterAttr ·.toField)).mapM fun f => getterOf f.ident f.ty := by
  simp only [generateGetters, Fields.iter, List.filter_map, mapM_map]
  rfl

theorem generateStructImpl_named (hd : d.data = .struct (.named fs)) :
    generateStructImpl d =
      (fun gs => ⟨d.ident, gs⟩) <$>
        (fs.filter (hasGetterAttr ·.toField)).mapM fun f => getterOf f.ident f.ty := by
  simp only [generateStructImpl, getStructFields, hd, ← generateGetters_named]
  rfl

theorem mapM_fieldLet (fs : List NamedField) :
    (fs.map NamedField.toField).mapM fieldLet =
      pure (fs.map fun f => (letStmtOf f.toField f.ident, f.ident)) := by
  induction fs with
  | nil => rfl
  | cons f fs ih => simp only [List.map_cons, List.mapM_cons, ih]; rfl

theorem generateBuildImpl_named (hd : d.data = .struct (.named fs)) :
    generateBuildImpl xid d =
      (fun name => { namedBuildImpl d fs with builderName := name }) <$>
        Ident.new xid (builderNameString d) := by
  simp only [generateBuildImpl, generateBuilderName_eq, getStructFields, hd, pure_bind,
    Fields.iter, mapM_fieldLet]
  cases Ident.new xid (builderNameString d) <;> simp [namedBuildImpl, Function.comp_def]

theorem generateBuilderStruct_named (hd : d.data = .struct (.named fs)) :
    generateBuilderStruct xid d =
      if namedIdentsOk xid d fs then .ok (namedBuilder d fs) else .error .panic := by
  have hitems : (fs.map NamedField.toField).mapM (builderField xid) =
      fs.mapM fun f => (fun n => ((⟨n, f.ident, f.ty⟩ : Setter), (f.ident, f.ty))) <$>
        Ident.new xid (setterString f.ident) := by
    rw [mapM_map]
    rfl
  simp only [generateBuilderStruct, generateBuilderName_eq, getStructFields, hd, Fields.iter,
    pure_bind, hitems, mapM_new, generateBuildImpl_named hd, namedIdentsOk]
  by_cases hn : identOk xid (builderNameString d) = true
  · by_cases hs : (fs.all fun f => identOk xid (setterString f.ident)) = true
    · cases hg : hasGenBuildFnAttr d.attrs <;>
        simp [Ident.new_of_identOk hn, hn, hs, hg, Function.comp_def, namedBuilder,
          namedBuildImpl] <;>
        rfl
    · simp [Ident.new_of_identOk hn, hs, Function.comp_def]
      rfl
  · simp [Ident.new_of_not_identOk (Bool.eq_false_iff.mpr hn), hn]
    rfl

/-- The closed form of `generate_builder_macro` on a struct with named fields. -/
theorem generateBuilderMacro_named (hd : d.data = .struct (.named fs)) :
    generateBuilderMacro xid d =
      (fs.filter (hasGetterAttr ·.toField)).mapM (fun f => getterOf f.ident f.ty) >>= fun gs =>
        if namedIdentsOk xid d fs then .ok ⟨⟨d.ident, gs⟩, namedBuilder d fs⟩ else .error .panic := by
  simp only [generateBuilderMacro, generateStructImpl_named hd, generateBuilderStruct_named hd]
  cases (fs.filter (hasGetterAttr ·.toField)).mapM fun f => getterOf f.ident f.ty <;>
    cases namedIdentsOk xid d fs <;> rfl

theorem generateBuilderMacro_named_ok (hd : d.data = .struct (.named fs)) {e : Expansion}
    (h : generateBuilderMacro xid d = .ok e) :
    namedIdentsOk xid d fs = true ∧ e.builderStruct = namedBuilder d fs ∧
      (fs.filter (hasGetterAttr ·.toField)).mapM (fun f => getterOf f.ident f.ty) =
        .ok e.structImpl.getters := by
  rw [generateBuilderMacro_named hd] at h
  revert h
  cases (fs.filter (hasGetterAttr ·.toField)).mapM fun f => getterOf f.ident f.ty <;>
    cases namedIdentsOk xid d fs <;> rintro ⟨⟩
  exact ⟨rfl, rfl, rfl⟩

end Named

/-! ## The structs of the crate's tests -/

def Attribute.word (name : String) : Attribute := ⟨false, [⟨name, false⟩], List.cons_ne_nil _ _, .none⟩

def Attribute.nameValue (name : String) (lit : Lit) : Attribute :=
  ⟨false, [⟨name, false⟩], List.cons_ne_nil _ _, .nameValue lit⟩

def Ty.named (name : String) (args : List Ty) : Ty :=
  .path [.mk ⟨name, false⟩ (if args.isEmpty then .none else .angleBracketed (args.map .type))]

def agentFields : List NamedField :=
  [⟨[.word "getter"], ⟨"public_key", false⟩, .named "String" []⟩,
   ⟨[.word "getter"], ⟨"wears_crocks", false⟩, .named "bool" []⟩,
   ⟨[.word "getter"], ⟨"known_enemies", false⟩, .named "Vec" [.named "String" []]⟩,
   ⟨[.word "getter", .word "optional"], ⟨"role", false⟩, .named "String" []⟩]

def agentInput : DeriveInput := ⟨[.word "gen_build_impl"], ⟨"Agent", false⟩, .struct (.named agentFields)⟩

def orgFields : List NamedField := [⟨[.word "getter"], ⟨"org_id", false⟩, .named "String" []⟩]

def orgInput : DeriveInput :=
  ⟨[.word "gen_build_impl", .nameValue "builder_name" (.str "OrgBuilder")], ⟨"Organization", false⟩,
    .struct (.named orgFields)⟩

end TransactDerive
