import TransactDerive.Safety

/-! # What `derive_builder` does with each input

`generate_builder_macro` runs `generate_struct_impl` before
`generate_builder_struct`, so an accessor that `generate_getters` cannot emit is
reported even when the builder's identifiers would make `Ident::new` panic. On
a struct, the derive ends in one of three ways, decided by three facts about
the input: whether some `#[getter]` field has a vector type whose element
`extract_type_from_generic` cannot read, whether the builder's name is an
identifier, and whether every field has a name that gives an identifier for its
setter.
-/

namespace TransactDerive

def getterFails (f : NamedField) : Bool :=
  hasGetterAttr f.toField && unreadableVec f.ty

/-- Some field of the struct makes `generate_getters` return its error. -/
def getterError : Fields → Bool
  | .named fs => fs.any getterFails
  | .unnamed _ => false
  | .unit => false

/-- Every `unwrap` of a field's name and every `Ident::new` of a setter's name in
`generate_builder_struct` succeeds. -/
def fieldIdentsOk (xid : XidTables) : Fields → Bool
  | .named fs => fs.all fun f => identOk xid (setterString f.ident)
  | .unnamed fs => fs.isEmpty
  | .unit => true

theorem mapM_getterOf (fs : List NamedField) :
    (fs.any getterFails = true ∧
      (fs.filter (hasGetterAttr ·.toField)).mapM (fun f => getterOf f.ident f.ty) =
        .error noGeneric) ∨
    (fs.any getterFails = false ∧
      ∃ gs, (fs.filter (hasGetterAttr ·.toField)).mapM (fun f => getterOf f.ident f.ty) =
        .ok gs) := by
  cases hm : (fs.filter (hasGetterAttr ·.toField)).mapM fun f => getterOf f.ident f.ty with
  | ok gs =>
    refine .inr ⟨?_, gs, rfl⟩
    simp only [List.any_eq_false, getterFails, Bool.and_eq_true, not_and]
    intro f hf hget hfail
    obtain ⟨g, -, hg⟩ := mapM_mem_of_ok hm (List.mem_filter.mpr ⟨hf, hget⟩)
    cases (getterOf_eq_error.mpr ⟨hfail, rfl⟩).symm.trans hg
  | error e =>
    obtain ⟨f, hf, hfe⟩ := mapM_eq_error hm
    obtain ⟨hunread, rfl⟩ := getterOf_eq_error.mp hfe
    obtain ⟨hf, hget⟩ := List.mem_filter.mp hf
    exact .inl ⟨List.any_eq_true.mpr ⟨f, hf, by simp [getterFails, hget, hunread]⟩, rfl⟩

variable {xid : XidTables} {d : DeriveInput}

/-- Everything `generate_builder_macro` can do with a struct: report the getters'
error, panic, or return an expansion, as the three facts of the module's
docstring decide. -/
theorem generateBuilderMacro_struct {fields : Fields} (hd : d.data = .struct fields) :
    (getterError fields = true ∧ generateBuilderMacro xid d = .error noGeneric) ∨
    (getterError fields = false ∧
      (identOk xid (builderNameString d) && fieldIdentsOk xid fields) = false ∧
      generateBuilderMacro xid d = .error .panic) ∨
    (getterError fields = false ∧
      (identOk xid (builderNameString d) && fieldIdentsOk xid fields) = true ∧
      ∃ e, generateBuilderMacro xid d = .ok e) := by
  cases fields with
  | named fs =>
    rw [generateBuilderMacro_named hd]
    rcases mapM_getterOf fs with ⟨hg, he⟩ | ⟨hg, gs, hgs⟩
    · exact .inl ⟨hg, by rw [he]; rfl⟩
    · rw [hgs]
      cases hok : namedIdentsOk xid d fs
      · exact .inr (.inl ⟨hg, hok, rfl⟩)
      · exact .inr (.inr ⟨hg, hok, _, rfl⟩)
  | unnamed fs =>
    have hiter : (Fields.unnamed fs).iter.isEmpty = fs.isEmpty := by cases fs <;> rfl
    rcases generateBuilderMacro_nameless hd (by simp [Fields.iter, UnnamedField.toField]) with
      ⟨h1, h2⟩ | ⟨h1, h2⟩
    · exact .inr (.inl ⟨rfl, by rwa [fieldIdentsOk, ← hiter], h2⟩)
    · exact .inr (.inr ⟨rfl, by rwa [fieldIdentsOk, ← hiter], h2⟩)
  | unit =>
    rcases generateBuilderMacro_nameless hd (by simp [Fields.iter]) with ⟨h1, h2⟩ | ⟨h1, h2⟩
    · exact .inr (.inl ⟨rfl, h1, h2⟩)
    · exact .inr (.inr ⟨rfl, h1, h2⟩)

/-- `derive_builder` emits the expansion exactly when the input is a struct, no
`#[getter]` field has a vector type whose element `extract_type_from_generic`
cannot read, and the builder's name and the names of all setters are
identifiers, which a tuple struct with a field has not. It reports a compile
error with one of two messages: `builder is only compatible with stucts` for an
enum or a union, and `Type does not have generic` for such a getter, whatever
the identifiers. In every other case it panics. -/
theorem deriveBuilder_outcome (d : DeriveInput) :
    ((∃ e, deriveBuilder xid d = .ok (.tokens e)) ↔
      ∃ fields, d.data = .struct fields ∧ getterError fields = false ∧
        (identOk xid (builderNameString d) && fieldIdentsOk xid fields) = true) ∧
    (∀ msg, deriveBuilder xid d = .ok (.compileError msg) ↔
      ((∀ fields, d.data ≠ .struct fields) ∧ msg = "builder is only compatible with stucts") ∨
      ∃ fields, d.data = .struct fields ∧ getterError fields = true ∧
        msg = "Type does not have generic") ∧
    (deriveBuilder xid d = .error .panic ↔
      ∃ fields, d.data = .struct fields ∧ getterError fields = false ∧
        (identOk xid (builderNameString d) && fieldIdentsOk xid fields) = false) := by
  cases hd : d.data with
  | struct fields =>
    simp only [Data.struct.injEq, exists_eq_left', ne_eq, forall_eq', not_true_eq_false,
      false_and, false_or]
    rcases @generateBuilderMacro_struct xid d _ hd with
      ⟨hg, h⟩ | ⟨hg, hok, h⟩ | ⟨hg, hok, e, h⟩
    · have hout : deriveBuilder xid d = .ok (.compileError "Type does not have generic") := by
        rw [deriveBuilder, h]; rfl
      simp only [hout, hg]
      refine ⟨by simp, fun msg => ?_, by simp⟩
      simp only [Except.ok.injEq, MacroOutput.compileError.injEq, true_and]
      exact eq_comm
    · have hout : deriveBuilder xid d = .error .panic := by rw [deriveBuilder, h]; rfl
      simp [hout, hg, hok]
    · have hout : deriveBuilder xid d = .ok (.tokens e) := by rw [deriveBuilder, h]; rfl
      simp [hout, hg, hok]
  | enum | union =>
    have hout : deriveBuilder xid d =
        .ok (.compileError "builder is only compatible with stucts") := by
      unfold deriveBuilder generateBuilderMacro generateStructImpl getStructFields
      rw [hd]
      rfl
    simp only [hout]
    refine ⟨by simp, fun msg => ?_, by simp⟩
    simp only [Except.ok.injEq, MacroOutput.compileError.injEq]
    simp only [ne_eq, reduceCtorEq, not_false_eq_true, implies_true, true_and, false_and,
      exists_false, or_false]
    exact eq_comm

end TransactDerive
