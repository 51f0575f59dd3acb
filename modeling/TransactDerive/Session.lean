import TransactDerive.Refinement

/-! # A session with the generated code

What a user of `#[derive(Builder)]` does with a struct with named fields:
`new()`, a chain of setter calls, `build()`, then the getters of the struct it
returns. Every state of the builder can be reached this way, a chain of calls
type-checks exactly when it names only setters, and after `build` a getter
returns what the builder held in its field.
-/

namespace TransactDerive

theorem getterOf_name {name : Ident} {ty : Ty} {g : Getter} (h : getterOf name ty = .ok g) :
    g.name = name := by
  unfold getterOf at h
  split at h
  · cases h; rfl
  · split at h
    · obtain ⟨t, -, h⟩ := bind_eq_ok.mp h
      cases h; rfl
    · cases h; rfl

section Setters
variable {Val : Type} {xid : XidTables} {d : DeriveInput} {fs : List NamedField}

theorem namedBuilder_call_name {b b' : Companion Val} {name : Ident} {v : Val}
    (h : (namedBuilder d fs).call b name v = some b') :
    ∃ g ∈ fs, name = ⟨setterString g.ident, false⟩ := by
  obtain ⟨s, hs, -⟩ := Option.map_eq_some'.mp h
  have hname := List.find?_some hs
  obtain ⟨g, hg, rfl⟩ := List.mem_map.mp (List.mem_of_find?_eq_some hs)
  exact ⟨g, hg, (beq_iff_eq.mp hname).symm⟩

theorem namedBuilder_foldlM_names {calls : List (Ident × Val)} {b b' : Companion Val}
    (h : calls.foldlM (fun b c => (namedBuilder d fs).call b c.1 c.2) b = some b') :
    ∀ c ∈ calls, ∃ g ∈ fs, c.1 = ⟨setterString g.ident, false⟩ := by
  induction calls generalizing b with
  | nil => exact fun _ hc => absurd hc (List.not_mem_nil _)
  | cons c cs ih =>
    simp only [List.foldlM_cons, Option.bind_eq_bind, Option.bind_eq_some] at h
    obtain ⟨b₁, h₁, h₂⟩ := h
    intro c' hc'
    rcases List.mem_cons.mp hc' with rfl | hc'
    · exact namedBuilder_call_name h₁
    · exact ih h₂ c' hc'

/-- Every state of the builder, an `Option` in each field of the struct and
nothing else, is reached from `new()` by calling, in declaration order, the
setter of each field that holds a value, with that value. -/
theorem builder_state_reachable {e : Expansion} (hd : d.data = .struct (.named fs))
    (h : generateBuilderMacro xid d = .ok e) (st : Companion Val)
    (hst : ∀ k ∉ fs.map (·.ident), st k = none) :
    e.builderStruct.runCalls
      (fs.filterMap fun f => (st f.ident).map fun v => (⟨"with_" ++ f.ident.toString, false⟩, v)) =
      some st := by
  obtain ⟨hok, hb, -⟩ := generateBuilderMacro_named_ok hd h
  have hraw := raw_of_namedIdentsOk hok
  have hcalls : (fs.filterMap fun f => (st f.ident).map fun v =>
      ((⟨"with_" ++ f.ident.toString, false⟩ : Ident), v)) =
      (fs.map (·.ident)).filterMap fun i => (st i).map (⟨setterString i, false⟩, ·) := by
    rw [List.filterMap_map]
    rfl
  rw [hb, hcalls]
  obtain ⟨b, hrun, hfield, hother⟩ := namedBuilder_foldlM hok
      ((fs.map (·.ident)).filterMap fun i => (st i).map (⟨setterString i, false⟩, ·))
      (fun c hc => by
    obtain ⟨i, hi, hc⟩ := List.mem_filterMap.mp hc
    obtain ⟨v, -, rfl⟩ := Option.map_eq_some'.mp hc
    obtain ⟨f, hf, rfl⟩ := List.mem_map.mp hi
    exact ⟨f, hf, rfl⟩) Companion.empty
  refine hrun.trans (congrArg some (funext fun k => ?_))
  by_cases hk : k ∈ fs.map (·.ident)
  · obtain ⟨f, hf, rfl⟩ := List.mem_map.mp hk
    have hinj : ∀ j ∈ fs.map (·.ident), (⟨setterString j, false⟩ : Ident) =
        ⟨setterString f.ident, false⟩ → j = f.ident := by
      intro j hj hkey
      obtain ⟨g, hg, rfl⟩ := List.mem_map.mp hj
      exact setterString_inj (hraw g hg) (hraw f hf) (Ident.mk.inj hkey).1
    rw [hfield f hf,
      lastWrite_filterMap (fun i => (⟨setterString i, false⟩ : Ident)) st _ _ hinj,
      if_pos (List.mem_map_of_mem _ hf)]
    exact Option.or_none
  · rw [hother k hk, hst k hk]
    rfl

theorem agent_state_reachable :
    ∃ (xid : XidTables) (e : Expansion), generateBuilderMacro xid agentInput = .ok e ∧
      e.builderStruct.runCalls [(⟨"with_public_key", false⟩, "pk"), (⟨"with_role", false⟩, "admin")] =
        some ((Companion.empty.set ⟨"public_key", false⟩ "pk").set ⟨"role", false⟩ "admin") := by
  let xid : XidTables := ⟨fun _ => false, fun _ => false, fun _ h => h⟩
  obtain ⟨e, he⟩ : ∃ e, generateBuilderMacro xid agentInput = .ok e := ⟨_, rfl⟩
  have hst : ∀ k ∉ agentFields.map (·.ident),
      ((Companion.empty.set ⟨"public_key", false⟩ "pk").set ⟨"role", false⟩ "admin") k =
        none := by
    intro k hk
    simp only [agentFields, List.map_cons, List.map_nil, List.mem_cons, not_or] at hk
    simp [Companion.set_apply, Ne.symm hk.1, Ne.symm hk.2.2.2.1, Companion.empty]
  exact ⟨xid, e, he, @builder_state_reachable String xid agentInput agentFields e rfl he _ hst⟩

/-- After a chain of setter calls and a `build` that succeeds, the getter of every
`#[getter]` field returns the argument of the last call to that field's setter,
or the default of the field's type when there was none. -/
theorem getter_after_build {dflt : Ty → Val} {e : Expansion} (hd : d.data = .struct (.named fs))
    (hnd : (fs.map (·.ident)).Nodup) (h : generateBuilderMacro xid d = .ok e)
    {impl : BuildImpl} (himpl : e.builderStruct.buildImpl = some impl)
    {calls : List (Ident × Val)} {b : Companion Val} (hb : e.builderStruct.runCalls calls = some b)
    {s : List (Ident × Val)} (hs : impl.run dflt e.builderStruct b = some (.ok s)) :
    ∀ f ∈ fs, hasGetterAttr f.toField = true →
      ∃ g ∈ e.structImpl.getters, g.name = f.ident ∧
        g.read s = some ((lastWrite calls ⟨"with_" ++ f.ident.toString, false⟩).getD (dflt f.ty)) := by
  obtain ⟨hok, hbs, hgs⟩ := generateBuilderMacro_named_ok hd h
  intro f hf hget
  obtain ⟨g, hg, hgf⟩ := mapM_mem_of_ok hgs (List.mem_filter.mpr ⟨hf, hget⟩)
  refine ⟨g, hg, getterOf_name hgf, ?_⟩
  rw [hbs] at himpl hb hs
  have himpl' : impl = namedBuildImpl d fs := by
    simp only [namedBuilder] at himpl
    split at himpl <;> cases himpl
    rfl
  rw [himpl', namedBuildImpl_run hnd, Option.some.injEq] at hs
  have hs' := mapM_resolve_eq_ok hs
  simp only [RecordDecl.ofNamed, List.map_map, Function.comp_def, FieldDecl.ofNamed] at hs'
  obtain ⟨b', hrun, hfield, -⟩ :=
    namedBuilder_foldlM hok calls (namedBuilder_foldlM_names hb) Companion.empty
  have hb' : b' = b := Option.some.inj (hrun.symm.trans hb)
  rw [Getter.read, getterOf_name hgf, hs', lookup_map_of_nodup (·.ident)
    (fun x => (b x.ident).getD (dflt x.ty)) hnd hf, ← hb', hfield f hf]
  exact congrArg (fun o => some (Option.getD o _)) Option.or_none

theorem agent_getter_after_build :
    ∃ (xid : XidTables) (e : Expansion) (impl : BuildImpl) (b : Companion String)
      (s : List (Ident × String)),
      generateBuilderMacro xid agentInput = .ok e ∧ e.builderStruct.buildImpl = some impl ∧
      e.builderStruct.runCalls [(⟨"with_public_key", false⟩, "wut1234"),
        (⟨"with_wears_crocks", false⟩, "false"), (⟨"with_role", false⟩, "admin"),
        (⟨"with_known_enemies", false⟩, "tim")] = some b ∧
      impl.run (fun _ => "") e.builderStruct b = some (.ok s) ∧
      ∃ g ∈ e.structImpl.getters, g.name = ⟨"public_key", false⟩ ∧ g.read s = some "wut1234" := by
  let xid : XidTables := ⟨fun _ => false, fun _ => false, fun _ h => h⟩
  refine ⟨xid, _, _, _, _, rfl, rfl, rfl, rfl, ?_⟩
  exact @getter_after_build String xid agentInput agentFields (fun _ => "") _ rfl (by decide) rfl
    _ rfl [(⟨"with_public_key", false⟩, "wut1234"), (⟨"with_wears_crocks", false⟩, "false"),
      (⟨"with_role", false⟩, "admin"), (⟨"with_known_enemies", false⟩, "tim")] _ rfl _ rfl
    _ (List.mem_cons_self _ _) rfl

end Setters

end TransactDerive
