import TransactDerive.Expand

/-! # What the derive reads

`generate_builder_macro` reads a field through its name, its type, and whether
it carries `#[getter]` and `#[optional]`; it reads the struct through its name,
the name of its builder and whether it carries `#[gen_build_impl]`. Inputs that
agree on these give the same result. Both the skipping of a malformed
`builder_name` and the indifference to foreign attributes are cases of this.
-/

namespace TransactDerive

/-- What the derive reads of a field. -/
def Field.view (f : Field) : Option Ident × Ty × Bool × Bool :=
  (f.ident, f.ty, hasGetterAttr f, hasOptionalAttr f)

/-- What the derive reads of the data of its input: the fields of a struct, and
nothing of an enum or a union. -/
def Data.view : Data → Option (List (Option Ident × Ty × Bool × Bool))
  | .struct fields => some (fields.iter.map Field.view)
  | .enum => none
  | .union => none

theorem Field.view_eq {f g : Field} (h : f.view = g.view) :
    f.ident = g.ident ∧ f.ty = g.ty ∧ hasGetterAttr f = hasGetterAttr g ∧
      hasOptionalAttr f = hasOptionalAttr g := by
  simpa [Field.view] using h

theorem mapM_congr_view {β : Type} (step : Field → Gen β)
    (hstep : ∀ f g, f.view = g.view → step f = step g) {l₁ l₂ : List Field}
    (h : l₁.map Field.view = l₂.map Field.view) : l₁.mapM step = l₂.mapM step := by
  induction l₁ generalizing l₂ with
  | nil => cases l₂ with
    | nil => rfl
    | cons _ _ => cases h
  | cons f l₁ ih =>
    cases l₂ with
    | nil => cases h
    | cons g l₂ =>
      simp only [List.map_cons, List.cons.injEq] at h
      simp only [List.mapM_cons, hstep f g h.1, ih h.2]

theorem filter_getter_view {l₁ l₂ : List Field}
    (h : l₁.map Field.view = l₂.map Field.view) :
    (l₁.filter hasGetterAttr).map Field.view = (l₂.filter hasGetterAttr).map Field.view := by
  induction l₁ generalizing l₂ with
  | nil => cases l₂ with
    | nil => rfl
    | cons _ _ => cases h
  | cons f l₁ ih =>
    cases l₂ with
    | nil => cases h
    | cons g l₂ =>
      simp only [List.map_cons, List.cons.injEq] at h
      simp only [List.filter_cons, (Field.view_eq h.1).2.2.1]
      split <;> simp [h.1, ih h.2]

variable {xid : XidTables}

/-- Two inputs that agree on what the derive reads give the same result. -/
theorem generateBuilderMacro_congr_view {d₁ d₂ : DeriveInput} (hi : d₁.ident = d₂.ident)
    (hname : builderNameString d₁ = builderNameString d₂)
    (hgen : hasGenBuildFnAttr d₁.attrs = hasGenBuildFnAttr d₂.attrs)
    (hdata : d₁.data.view = d₂.data.view) :
    generateBuilderMacro xid d₁ = generateBuilderMacro xid d₂ := by
  cases h₁ : d₁.data with
  | struct fields₁ =>
    cases h₂ : d₂.data with
    | struct fields₂ =>
      simp only [Data.view, h₁, h₂, Option.some.injEq] at hdata
      have hgetters := mapM_congr_view fieldGetter (fun f g h => by
        obtain ⟨hi, ht, -⟩ := Field.view_eq h
        rw [fieldGetter, fieldGetter, hi, ht]) (filter_getter_view hdata)
      have hitems := mapM_congr_view (builderField xid) (fun f g h => by
        obtain ⟨hi, ht, -⟩ := Field.view_eq h
        rw [builderField, builderField, hi, ht]) hdata
      have hstmts := mapM_congr_view fieldLet (fun f g h => by
        obtain ⟨hi, -, -, ho⟩ := Field.view_eq h
        simp only [fieldLet, letStmtOf, hi, ho]) hdata
      simp only [generateBuilderMacro, generateStructImpl, generateGetters, generateBuilderStruct,
        generateBuildImpl, generateBuilderName_eq, getStructFields, h₁, h₂, hi, hname, hgen,
        pure_bind, hgetters, hitems, hstmts]
    | enum | union => simp [Data.view, h₁, h₂] at hdata
  | enum | union =>
    cases h₂ : d₂.data with
    | struct fields₂ => simp [Data.view, h₁, h₂] at hdata
    | enum | union =>
      simp only [generateBuilderMacro, generateStructImpl, getStructFields, h₁, h₂]
      rfl

end TransactDerive
