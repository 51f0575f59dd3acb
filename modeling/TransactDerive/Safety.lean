import TransactDerive.Expand

/-! # When the derive panics

`generate_builder_macro` reports an enum or a union as a `syn::Error`, but it
unwraps the name of every field of a struct, so a tuple struct with a field
makes it panic. `Ident::new` panics too on a string that is no identifier: the
setter name `with_r#type` of a raw field, or a `builder_name` value such as
`"my builder"`. On a struct with plain named fields and an identifier for a
builder name it never panics: the only error of a getter is a `syn::Error`.
-/

namespace TransactDerive

/-- A type `generate_getters` cannot give an accessor: classified as a vector and
not as a string, with no type as the first generic argument of its first
segment. -/
def unreadableVec (ty : Ty) : Bool :=
  !isString ty && isVec ty && (firstSegmentType ty).isNone

/-- The one error of a getter is `Type does not have generic`, on an unreadable
vector. -/
theorem getterOf_eq_error {name : Ident} {ty : Ty} {e : Fault} :
    getterOf name ty = .error e ↔ unreadableVec ty = true ∧ e = noGeneric := by
  unfold getterOf unreadableVec
  rw [extractTypeFromGeneric_eq]
  cases isString ty <;> cases isVec ty <;> cases firstSegmentType ty <;>
    simp [bind, Except.bind, pure, Except.pure, eq_comm]

theorem mapM_eq_error {α β ε : Type} {h : α → Except ε β} {l : List α} {e : ε}
    (hl : l.mapM h = .error e) : ∃ a ∈ l, h a = .error e := by
  induction l with
  | nil => cases hl
  | cons a l ih =>
    rw [List.mapM_cons] at hl
    cases ha : h a with
    | error e' => rw [ha] at hl; cases hl; exact ⟨a, List.mem_cons_self _ _, ha⟩
    | ok b =>
      cases hls : l.mapM h with
      | error e' =>
        rw [ha, hls] at hl
        cases hl
        obtain ⟨a', ha', h'⟩ := ih hls
        exact ⟨a', List.mem_cons_of_mem _ ha', h'⟩
      | ok bs => rw [ha, hls] at hl; cases hl

theorem mapM_nameless {β : Type} (step : Field → Gen β)
    (hstep : ∀ field, field.ident = none → step field = .error .panic) {l : List Field}
    (hl : ∀ f ∈ l, f.ident = none) :
    l.mapM step = if l.isEmpty then .ok [] else .error .panic := by
  cases l with
  | nil => rfl
  | cons f l =>
    simp only [List.mapM_cons, hstep f (hl f (List.mem_cons_self _ _))]
    rfl

variable {xid : XidTables} {d : DeriveInput}

/-- On a struct whose fields have no names, `generate_builder_macro` succeeds
when there is no field and the builder's name is an identifier, and panics
otherwise. -/
theorem generateBuilderMacro_nameless {fields : Fields} (hd : d.data = .struct fields)
    (hnone : ∀ f ∈ fields.iter, f.ident = none) :
    ((identOk xid (builderNameString d) && fields.iter.isEmpty) = false ∧
      generateBuilderMacro xid d = .error .panic) ∨
    ((identOk xid (builderNameString d) && fields.iter.isEmpty) = true ∧
      ∃ e, generateBuilderMacro xid d = .ok e) := by
  have hgetters := mapM_nameless fieldGetter (fun _ h => by rw [fieldGetter, h]; rfl)
    (l := fields.iter.filter hasGetterAttr) fun f hf => hnone f (List.mem_filter.mp hf).1
  have hitems := mapM_nameless (builderField xid) (fun _ h => by rw [builderField, h]; rfl) hnone
  have hstmts := mapM_nameless fieldLet (fun _ h => by rw [fieldLet, h]; rfl) hnone
  simp only [generateBuilderMacro, generateStructImpl, generateGetters, generateBuilderStruct,
    generateBuildImpl, generateBuilderName_eq, getStructFields, hd, pure_bind, hgetters, hitems,
    hstmts]
  cases hi : fields.iter.isEmpty
  · refine .inl ⟨Bool.and_false _, ?_⟩
    cases hn : identOk xid (builderNameString d) <;>
      simp only [Ident.new_of_not_identOk, Ident.new_of_identOk, hn, Bool.false_eq_true,
        if_false] <;> split <;> rfl
  · have hnil : fields.iter = [] := List.isEmpty_iff.mp hi
    simp only [hnil, List.filter_nil, List.isEmpty_nil, if_true, Bool.and_true]
    cases hn : identOk xid (builderNameString d)
    · refine .inl ⟨rfl, ?_⟩
      rw [Ident.new_of_not_identOk hn]
      rfl
    · refine .inr ⟨rfl, ?_⟩
      rw [Ident.new_of_identOk hn]
      split <;> exact ⟨_, rfl⟩

/-- A tuple struct with a field makes the derive panic: `generate_builder_struct`
unwraps the name of its first field, which has none. -/
theorem generateBuilderMacro_unnamed_panics {fs : List UnnamedField}
    (hd : d.data = .struct (.unnamed fs)) (hne : fs ≠ []) :
    generateBuilderMacro xid d = .error .panic := by
  rcases generateBuilderMacro_nameless hd (by simp [Fields.iter, UnnamedField.toField]) with
    ⟨-, h⟩ | ⟨h, -⟩
  · exact h
  · obtain ⟨f, fs, rfl⟩ := List.exists_cons_of_ne_nil hne
    simp [Fields.iter] at h

theorem tuple_struct_panics :
    ∃ xid : XidTables, generateBuilderMacro xid ⟨[], ⟨"S", false⟩, .struct (.unnamed [⟨[], .named "u8" []⟩])⟩ =
      .error .panic ∧
    deriveBuilder xid ⟨[], ⟨"S", false⟩, .struct (.unnamed [⟨[], .named "u8" []⟩])⟩ = .error .panic := by
  let xid : XidTables := ⟨fun _ => false, fun _ => false, fun _ h => h⟩
  have h := @generateBuilderMacro_unnamed_panics xid
    ⟨[], ⟨"S", false⟩, .struct (.unnamed [⟨[], .named "u8" []⟩])⟩ _ rfl
    (List.cons_ne_nil _ _)
  exact ⟨xid, h, by rw [deriveBuilder, h]; rfl⟩

/-- A builder name that is no identifier makes `generate_builder_struct` panic,
before it looks at the fields. -/
theorem generateBuilderStruct_bad_name (h : identOk xid (builderNameString d) = false) :
    generateBuilderStruct xid d = .error .panic := by
  rw [generateBuilderStruct, generateBuilderName_eq, Ident.new_of_not_identOk h]
  rfl

theorem spaced_builder_name_panics :
    ∃ xid : XidTables, generateBuilderStruct xid
      ⟨[.nameValue "builder_name" (.str "my builder")], ⟨"S", false⟩, .struct (.named [])⟩ =
        .error .panic :=
  ⟨⟨fun _ => false, fun _ => false, fun _ h => h⟩, generateBuilderStruct_bad_name rfl⟩

/-- A raw field name makes `generate_builder_struct` panic: `with_r#...` is no
identifier. -/
theorem generateBuilderStruct_raw_field {fs : List NamedField} (hd : d.data = .struct (.named fs))
    {f : NamedField} (hf : f ∈ fs) (hraw : f.ident.raw = true) :
    generateBuilderStruct xid d = .error .panic := by
  have hok : namedIdentsOk xid d fs = false :=
    Bool.eq_false_iff.mpr fun h => by simp [raw_of_namedIdentsOk h f hf] at hraw
  rw [generateBuilderStruct_named hd, hok]
  rfl

theorem raw_field_panics :
    ∃ xid : XidTables, generateBuilderStruct xid
      ⟨[], ⟨"S", false⟩, .struct (.named [⟨[], ⟨"type", true⟩, .named "u8" []⟩])⟩ = .error .panic :=
  ⟨⟨fun _ => false, fun _ => false, fun _ h => h⟩,
    generateBuilderStruct_raw_field rfl (List.mem_singleton_self _) rfl⟩

theorem identOk_builderNameString (hi : d.ident.raw = false) (hsym : identOk xid d.ident.sym = true)
    (hlit : ∀ s, d.attrs.findSome? builderNameLit = some s → identOk xid s = true) :
    identOk xid (builderNameString d) = true := by
  unfold builderNameString
  cases h : d.attrs.findSome? builderNameLit with
  | some s => exact hlit s h
  | none =>
    rw [Option.getD_none, Ident.toString_of_not_raw _ hi, identOk, String.data_append]
    exact identChars_append_right xid rfl hsym

/-- On a struct with named fields, whose name and field names are plain
identifiers, and whose first `#[builder_name = "..."]`, if any, is an
identifier, `generate_builder_macro` does not panic: it returns the expansion or
a `syn::Error`. -/
theorem generateBuilderMacro_named_ne_panic {fs : List NamedField}
    (hd : d.data = .struct (.named fs)) (hi : d.ident.raw = false)
    (hsym : identOk xid d.ident.sym = true)
    (hlit : ∀ s, d.attrs.findSome? builderNameLit = some s → identOk xid s = true)
    (hfields : ∀ f ∈ fs, f.ident.raw = false ∧ identOk xid f.ident.sym = true) :
    generateBuilderMacro xid d ≠ .error .panic := by
  have hok : namedIdentsOk xid d fs = true := by
    simp only [namedIdentsOk, identOk_builderNameString hi hsym hlit, Bool.true_and,
      List.all_eq_true]
    exact fun f hf => identOk_setterString (hfields f hf).1 (hfields f hf).2
  rw [generateBuilderMacro_named hd, hok]
  cases hg : (fs.filter (hasGetterAttr ·.toField)).mapM fun f => getterOf f.ident f.ty with
  | error e =>
    obtain ⟨f, -, hf⟩ := mapM_eq_error hg
    rintro ⟨⟩
    cases (getterOf_eq_error.mp hf).2
  | ok gs => simp [bind, Except.bind]

theorem agent_no_panic : ∃ xid : XidTables, generateBuilderMacro xid agentInput ≠ .error .panic :=
  ⟨⟨fun _ => false, fun _ => false, fun _ h => h⟩,
    generateBuilderMacro_named_ne_panic rfl rfl rfl (fun _ h => by cases h) (by decide)⟩

end TransactDerive
