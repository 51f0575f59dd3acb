import TransactDerive.Congruence

/-! # Attributes that are not the derive's own

Doc comments and the helpers of other derives sit beside `#[getter]`,
`#[optional]`, `#[builder_name = ".."]` and `#[gen_build_impl]`. The derive
reads none of them, so removing them, on the struct or on a field, changes
nothing in what it produces.
-/

namespace TransactDerive

/-- The derive's own attributes on a struct: paths that start with
`builder_name` or `gen_build_impl`. -/
def structHelperAttr (attr : Attribute) : Bool :=
  attr.startsWith ⟨"builder_name", false⟩ || attr.startsWith ⟨"gen_build_impl", false⟩

/-- The derive's own attributes on a field: metas named `getter` or `optional`. -/
def fieldHelperAttr (attr : Attribute) : Bool :=
  attr.parseMeta.map Meta.name == some ⟨"getter", false⟩ ||
    attr.parseMeta.map Meta.name == some ⟨"optional", false⟩

def Fields.ownAttrsOnly : Fields → Fields
  | .named fs => .named (fs.map fun f => { f with attrs := f.attrs.filter fieldHelperAttr })
  | .unnamed fs => .unnamed (fs.map fun f => { f with attrs := f.attrs.filter fieldHelperAttr })
  | .unit => .unit

/-- The input with only the derive's own attributes, on the struct and on each
of its fields. -/
def DeriveInput.ownAttrsOnly (d : DeriveInput) : DeriveInput where
  attrs := d.attrs.filter structHelperAttr
  ident := d.ident
  data := match d.data with
    | .struct fields => .struct fields.ownAttrsOnly
    | .enum => .enum
    | .union => .union

theorem hasHelperAttribue_filter (attrs : List Attribute) (ident : Option Ident) (ty : Ty)
    {name : Ident} (hname : name = ⟨"getter", false⟩ ∨ name = ⟨"optional", false⟩) :
    hasHelperAttribue ⟨attrs.filter fieldHelperAttr, ident, ty⟩ name =
      hasHelperAttribue ⟨attrs, ident, ty⟩ name := by
  unfold hasHelperAttribue
  induction attrs with
  | nil => rfl
  | cons a attrs ih =>
    cases hm : a.parseMeta with
    | none => simpa [List.filter_cons, fieldHelperAttr, hm, List.filterMap_cons] using ih
    | some m =>
      by_cases hown : fieldHelperAttr a = true
      · simp [List.filter_cons, hown, hm, List.filterMap_cons, ih]
      · have hne : (m.name == name) = false := by
          simp only [fieldHelperAttr, hm, Option.map_some', beq_iff_eq, Option.some.injEq,
            Bool.or_eq_true, not_or] at hown
          rcases hname with rfl | rfl <;> simp [hown.1, hown.2]
        simp [List.filter_cons, hown, hm, List.filterMap_cons, ih, hne]

theorem Field.view_filter (attrs : List Attribute) (ident : Option Ident) (ty : Ty) :
    Field.view ⟨attrs.filter fieldHelperAttr, ident, ty⟩ =
      Field.view ⟨attrs, ident, ty⟩ := by
  simp only [Field.view, hasGetterAttr, hasOptionalAttr, hasHelperAttribue_filter _ _ _ (.inl rfl),
    hasHelperAttribue_filter _ _ _ (.inr rfl)]

theorem Data.view_ownAttrsOnly (d : DeriveInput) : d.ownAttrsOnly.data.view = d.data.view := by
  rcases hd : d.data with (fs | fs | _) | _ | _ <;>
    simp only [DeriveInput.ownAttrsOnly, hd, Fields.ownAttrsOnly, Data.view, Fields.iter,
      List.map_map]
  all_goals first
    | rfl
    | exact congrArg some (List.map_congr_left fun f _ => Field.view_filter f.attrs _ f.ty)

theorem structHelperAttr_reads_nothing {a : Attribute} (h : structHelperAttr a = false) :
    builderNameLit a = none ∧ a.startsWith ⟨"gen_build_impl", false⟩ = false := by
  simp only [structHelperAttr, Bool.or_eq_false_iff] at h
  simp [builderNameLit, h.1, h.2]

variable {xid : XidTables}

/-- Removing every attribute that is not the derive's own, from the struct and
from each of its fields, changes nothing in what `generate_builder_macro`
produces: doc comments and the helpers of other derives are never read. -/
theorem foreign_attrs_ignored (d : DeriveInput) :
    generateBuilderMacro xid d.ownAttrsOnly = generateBuilderMacro xid d :=
  generateBuilderMacro_congr_view rfl
    (by simp only [builderNameString, DeriveInput.ownAttrsOnly,
      findSome?_builderNameLit_filter d.attrs fun _ h => (structHelperAttr_reads_nothing h).1])
    (hasGenBuildFnAttr_filter d.attrs fun _ h => (structHelperAttr_reads_nothing h).2)
    (Data.view_ownAttrsOnly d)

end TransactDerive
