import TransactDerive.Expand
import Mathlib.Data.List.Forall2

/-! # The getters

`generate_getters` emits one accessor per field marked `#[getter]`, in order and
named as the field. Its return type follows `is_string` and `is_vec`, but the
element type of a vector is read from the first segment of the path: the two
agree when the path is written `Vec<T>`, and not when it is `std::vec::Vec<T>`.
-/

namespace TransactDerive

/-- The accessor type the specification asks for: `&str` for a `String`, `&[T]`
for a vector with `T` the argument of its `Vec` segment, `&ty` otherwise. -/
def accessorRet (ty : Ty) : Option GetterRet :=
  if isString ty then some .str
  else if isVec ty then (vecArgument ty).map .slice
  else some (.ref ty)

def vecArgumentFirst (ty : Ty) : Prop :=
  isString ty = false → isVec ty = true →
    (vecArgument ty).isSome ∧ firstSegmentType ty = vecArgument ty

/-- A getter as the specification asks for it, for a field of this name and type. -/
def GetterSpec (name : Ident) (ty : Ty) (g : Getter) : Prop :=
  g.name = name ∧ accessorRet ty = some g.ret

theorem getterOf_spec (name : Ident) (ty : Ty) :
    (∃ g, getterOf name ty = .ok g ∧ GetterSpec name ty g) ↔ vecArgumentFirst ty := by
  unfold getterOf vecArgumentFirst GetterSpec accessorRet
  cases hs : isString ty
  · cases hv : isVec ty
    · simp [pure, Except.pure]
    · rw [extractTypeFromGeneric_eq]
      cases hf : firstSegmentType ty <;> cases hvec : vecArgument ty <;>
        simp [bind, Except.bind, pure, Except.pure, eq_comm]
  · simp [pure, Except.pure]

theorem mapM_forall₂_iff {α β ε : Type} (h : α → Except ε β) (R : α → β → Prop) (P : α → Prop)
    (hstep : ∀ a, (∃ b, h a = .ok b ∧ R a b) ↔ P a) (l : List α) :
    (∃ bs, l.mapM h = .ok bs ∧ List.Forall₂ R l bs) ↔ ∀ a ∈ l, P a := by
  induction l with
  | nil => exact ⟨fun _ a ha => absurd ha (List.not_mem_nil a), fun _ => ⟨[], rfl, .nil⟩⟩
  | cons a l ih =>
    rw [List.forall_mem_cons, ← ih, ← hstep, List.mapM_cons]
    constructor
    · rintro ⟨bs, hbs, hR⟩
      obtain ⟨b, bs', hRb, hRs, rfl⟩ := List.forall₂_cons_left_iff.mp hR
      cases hb : h a with
      | error e => rw [hb] at hbs; cases hbs
      | ok b₀ =>
        cases hl : l.mapM h with
        | error e => rw [hb, hl] at hbs; cases hbs
        | ok bs₀ =>
          rw [hb, hl] at hbs
          cases hbs
          exact ⟨⟨_, rfl, hRb⟩, _, rfl, hRs⟩
    · rintro ⟨⟨b, hb, hR⟩, bs, hl, hRs⟩
      exact ⟨b :: bs, by rw [hb, hl]; rfl, .cons hR hRs⟩

/-- `generate_getters` emits, for every field with `#[getter]` and for no other,
in order, an accessor named as the field and typed as the specification asks,
exactly when every such field of a vector type carries its element type in the
first segment of its path. -/
theorem generateGetters_spec (fs : List NamedField) :
    (∃ gs, generateGetters (.named fs) = .ok gs ∧
      List.Forall₂ (fun f g => GetterSpec f.ident f.ty g) (fs.filter (hasGetterAttr ·.toField)) gs) ↔
    ∀ f ∈ fs, hasGetterAttr f.toField = true → vecArgumentFirst f.ty := by
  rw [generateGetters_named, mapM_forall₂_iff (fun f : NamedField => getterOf f.ident f.ty)
    (fun f g => GetterSpec f.ident f.ty g) (fun f => vecArgumentFirst f.ty)
    (fun f => getterOf_spec f.ident f.ty)]
  simp [List.mem_filter]

/-- A getter on `std::vec::Vec<u8>`: `is_vec` holds and the `Vec` segment's argument
is `u8`, but `extract_type_from_generic` reads the first segment, `std`, and
`generate_getters` fails. -/
theorem std_vec_getter_fails :
    let ty : Ty := .path [.mk ⟨"std", false⟩ .none, .mk ⟨"vec", false⟩ .none,
      .mk ⟨"Vec", false⟩ (.angleBracketed [.type (.named "u8" [])])]
    isVec ty = true ∧ vecArgument ty = some (.named "u8" []) ∧
      extractTypeFromGeneric ty = .error noGeneric ∧
      generateGetters (.named [⟨[.word "getter"], ⟨"xs", false⟩, ty⟩]) =
        .error (.synError "Type does not have generic") :=
  ⟨rfl, rfl, rfl, rfl⟩

end TransactDerive
