import TransactDerive.Runtime
import Mathlib.Data.List.Nodup

/-! # The generated builder refines the companion of its struct

For a struct with named fields, the builder `generate_builder_macro` emits is
the companion of the struct's declaration: it holds the struct's fields in
`Option`, a setter called by its name writes one box, and `build` is the
validating constructor, fail-fast in declared order.
-/

namespace TransactDerive

def FieldDecl.ofNamed (f : NamedField) : FieldDecl := ⟨f.ident, f.ty, hasOptionalAttr f.toField⟩

def RecordDecl.ofNamed (fs : List NamedField) (h : (fs.map (·.ident)).Nodup) : RecordDecl :=
  ⟨fs.map FieldDecl.ofNamed, by simpa [Function.comp_def, FieldDecl.ofNamed] using h⟩

theorem lookup_map_of_nodup {α β : Type} (key : α → Ident) (val : α → β) {l : List α}
    (hl : (l.map key).Nodup) {a : α} (ha : a ∈ l) :
    (l.map fun x => (key x, val x)).lookup (key a) = some (val a) := by
  induction l with
  | nil => cases ha
  | cons x l ih =>
    rw [List.map_cons, List.nodup_cons] at hl
    rcases List.mem_cons.mp ha with rfl | ha
    · simp
    · have hne : (key a == key x) = false :=
        beq_false_of_ne fun h => hl.1 (h ▸ List.mem_map_of_mem key ha)
      simp [List.lookup_cons, hne, ih hl.2 ha]

theorem mapM_option_eq_some {α β : Type} {f : α → Option β} {g : α → β} {l : List α}
    (h : ∀ a ∈ l, f a = some (g a)) : l.mapM f = some (l.map g) := by
  induction l with
  | nil => rfl
  | cons a l ih =>
    simp only [List.mapM_cons, h a (List.mem_cons_self _ _),
      ih fun b hb => h b (List.mem_cons_of_mem _ hb)]
    rfl

section Build
variable {Val : Type} {dflt : Ty → Val} {d : DeriveInput} {fs : List NamedField}

theorem eval_letStmtOf (hnd : (fs.map (·.ident)).Nodup) {f : NamedField} (hf : f ∈ fs)
    (st : Companion Val) :
    (letStmtOf f.toField f.ident).eval dflt (namedBuilder d fs) st =
      some ((FieldDecl.ofNamed f).resolve dflt st) := by
  have hty : (namedBuilder d fs).fields.lookup f.ident = some f.ty :=
    lookup_map_of_nodup (·.ident) (·.ty) hnd hf
  unfold letStmtOf FieldDecl.resolve
  cases ho : hasOptionalAttr f.toField <;> cases hs : st f.ident <;>
    simp [LetStmt.eval, hty, FieldDecl.ofNamed, ho, hs]

/-- The generated `build` is the validating constructor of the struct's declaration. -/
theorem namedBuildImpl_run (hnd : (fs.map (·.ident)).Nodup) (st : Companion Val) :
    (namedBuildImpl d fs).run dflt (namedBuilder d fs) st =
      some ((RecordDecl.ofNamed fs hnd).validate dflt st) := by
  have hlets := runLets_map (fun f : NamedField => letStmtOf f.toField f.ident)
    (fun f => (FieldDecl.ofNamed f).resolve dflt st)
    (fun f hf => eval_letStmtOf (d := d) hnd hf st) []
  unfold BuildImpl.run RecordDecl.validate RecordDecl.ofNamed
  rw [namedBuildImpl, hlets, mapM_map]
  simp only [Function.comp_def]
  cases hv : fs.mapM (fun f => (FieldDecl.ofNamed f).resolve dflt st) with
  | error e => rfl
  | ok rs =>
    have hrs := @mapM_resolve_eq_ok _ _ (fs.map FieldDecl.ofNamed) _ _ (by rwa [mapM_map])
    simp only [List.map_map, Function.comp_def, FieldDecl.ofNamed] at hrs
    subst hrs
    have hrev : (fs.reverse.map (·.ident)).Nodup := by rwa [List.map_reverse, List.nodup_reverse]
    simp only [List.append_nil, ← List.map_reverse, Functor.map, Except.map, mapM_map,
      Function.comp_def]
    rw [mapM_option_eq_some (g := fun f => (f.ident, (st f.ident).getD (dflt f.ty))) fun f hf => by
      rw [lookup_map_of_nodup (·.ident) (fun x => (st x.ident).getD (dflt x.ty)) hrev
        (List.mem_reverse.mpr hf)]
      rfl]
    rfl

/-- The generated `build`, on every state of the builder, returns the struct with
each field's value, or the default of an `#[optional]` field left `None`, when
no required field is `None`; otherwise it returns `MissingField` with the name of
the first required field that is `None`, whatever the fields after it hold. -/
theorem build_first_missing_field {xid : XidTables} {e : Expansion}
    (hd : d.data = .struct (.named fs)) (hnd : (fs.map (·.ident)).Nodup)
    (hgen : hasGenBuildFnAttr d.attrs = true) (h : generateBuilderMacro xid d = .ok e) :
    ∃ impl, e.builderStruct.buildImpl = some impl ∧ impl.builderName = e.builderStruct.name ∧
      impl.structName = d.ident ∧ ∀ st : Companion Val,
      ((∀ f ∈ fs, hasOptionalAttr f.toField = false → (st f.ident).isSome) →
        impl.run dflt e.builderStruct st =
          some (.ok (fs.map fun f => (f.ident, (st f.ident).getD (dflt f.ty))))) ∧
      (∀ pre f post, fs = pre ++ f :: post → hasOptionalAttr f.toField = false →
        st f.ident = none → (∀ g ∈ pre, hasOptionalAttr g.toField = false → (st g.ident).isSome) →
        impl.run dflt e.builderStruct st = some (.error (.missingField f.ident.toString))) := by
  obtain ⟨-, hb, -⟩ := generateBuilderMacro_named_ok hd h
  refine ⟨namedBuildImpl d fs, by simp [hb, namedBuilder, hgen], by rw [hb]; rfl, rfl,
    fun st => ⟨fun hreq => ?_, ?_⟩⟩
  · rw [hb, namedBuildImpl_run hnd, RecordDecl.validate, RecordDecl.ofNamed,
      mapM_resolve_ok (by simpa [FieldDecl.ofNamed] using hreq)]
    simp [FieldDecl.ofNamed]
  · rintro pre f post rfl hf hs hpre
    rw [hb, namedBuildImpl_run hnd]
    simp only [RecordDecl.validate, RecordDecl.ofNamed, List.map_append, List.map_cons]
    rw [mapM_resolve_missing (by simpa [FieldDecl.ofNamed] using hpre) hf hs]
    rfl

theorem agent_build_states :
    ∃ (xid : XidTables) (e : Expansion) (impl : BuildImpl),
      generateBuilderMacro xid agentInput = .ok e ∧ e.builderStruct.buildImpl = some impl ∧
      impl.builderName = ⟨"AgentBuilder", false⟩ ∧ impl.structName = ⟨"Agent", false⟩ ∧
      impl.run (fun _ => "") e.builderStruct
        (((Companion.empty.set ⟨"public_key", false⟩ "wut1234").set ⟨"wears_crocks", false⟩
          "false").set ⟨"known_enemies", false⟩ "tim") =
        some (.ok [(⟨"public_key", false⟩, "wut1234"), (⟨"wears_crocks", false⟩, "false"),
          (⟨"known_enemies", false⟩, "tim"), (⟨"role", false⟩, "")]) ∧
      impl.run (fun _ => "") e.builderStruct
        ((Companion.empty.set ⟨"wears_crocks", false⟩ "false").set ⟨"known_enemies", false⟩ "tim")
        = some (.error (.missingField "public_key")) ∧
      impl.run (fun _ => "") e.builderStruct (Companion.empty.set ⟨"public_key", false⟩ "wut1234")
        = some (.error (.missingField "wears_crocks")) := by
  let xid : XidTables := ⟨fun _ => false, fun _ => false, fun _ h => h⟩
  obtain ⟨e, he⟩ : ∃ e, generateBuilderMacro xid agentInput = .ok e := ⟨_, rfl⟩
  obtain ⟨impl, himpl, hname, hstruct, hrun⟩ :=
    @build_first_missing_field String (fun _ => "") agentInput agentFields xid e rfl (by decide)
      rfl he
  obtain ⟨-, hb, -⟩ := generateBuilderMacro_named_ok rfl he
  refine ⟨xid, e, impl, he, himpl, hname.trans (by rw [hb]; rfl), hstruct,
    (hrun _).1 (by decide), (hrun _).2 [] _ _ rfl rfl rfl (by simp),
    (hrun _).2 [_] _ _ rfl rfl rfl (by decide)⟩

end Build

section Setters
variable {Val : Type} {xid : XidTables} {d : DeriveInput} {fs : List NamedField}

theorem namedBuilder_call (hok : namedIdentsOk xid d fs = true) {f : NamedField} (hf : f ∈ fs)
    (b : Companion Val) (v : Val) :
    (namedBuilder d fs).call b ⟨setterString f.ident, false⟩ v = some (b.set f.ident v) := by
  obtain ⟨g, hg⟩ : ∃ g, fs.find? (fun g => (⟨setterString g.ident, false⟩ : Ident) ==
      ⟨setterString f.ident, false⟩) = some g :=
    Option.isSome_iff_exists.mp (List.find?_isSome.mpr ⟨f, hf, by simp⟩)
  have hgf : g.ident = f.ident :=
    setterString_inj (raw_of_namedIdentsOk hok g (List.mem_of_find?_eq_some hg))
      (raw_of_namedIdentsOk hok f hf) (by simpa using List.find?_some hg)
  simp only [BuilderStruct.call, namedBuilder, List.find?_map, Function.comp_def, hg]
  simp [Setter.apply, hgf]

/-- A chain of setter calls writes into each field's box the argument of the last
call to that field's setter, and leaves every other box as it was. -/
theorem namedBuilder_foldlM (hok : namedIdentsOk xid d fs = true) (calls : List (Ident × Val))
    (hcalls : ∀ c ∈ calls, ∃ g ∈ fs, c.1 = ⟨setterString g.ident, false⟩) (b : Companion Val) :
    ∃ b', calls.foldlM (fun b c => (namedBuilder d fs).call b c.1 c.2) b = some b' ∧
      (∀ f ∈ fs, b' f.ident = (lastWrite calls ⟨setterString f.ident, false⟩).or (b f.ident)) ∧
      ∀ k ∉ fs.map (·.ident), b' k = b k := by
  have hraw := raw_of_namedIdentsOk hok
  induction calls generalizing b with
  | nil => exact ⟨b, rfl, fun _ _ => rfl, fun _ _ => rfl⟩
  | cons c cs ih =>
    obtain ⟨g, hg, hc⟩ := hcalls c (List.mem_cons_self _ _)
    obtain ⟨b', hrun, hfield, hother⟩ :=
      ih (fun c' h' => hcalls c' (List.mem_cons_of_mem _ h')) (b.set g.ident c.2)
    refine ⟨b', ?_, fun f hf => ?_, fun k hk => ?_⟩
    · rw [List.foldlM_cons, hc, namedBuilder_call hok hg]
      exact hrun
    · rw [hfield f hf, lastWrite, Option.or_assoc, Companion.set_apply, hc]
      by_cases hgf : g.ident = f.ident
      · simp [hgf]
      · have hne :
            (⟨setterString g.ident, false⟩ : Ident) ≠ ⟨setterString f.ident, false⟩ :=
          fun h => hgf (setterString_inj (hraw g hg) (hraw f hf) (Ident.mk.inj h).1)
        simp [hgf, hne]
    · rw [hother k hk, Companion.set_apply, if_neg]
      rintro rfl
      exact hk (List.mem_map_of_mem _ hg)

theorem namedBuilder_setters_nodup (hok : namedIdentsOk xid d fs = true)
    (hnd : (fs.map (·.ident)).Nodup) : ((namedBuilder d fs).setters.map (·.name)).Nodup := by
  have hraw := raw_of_namedIdentsOk hok
  have h := hnd.map_on (f := fun i => (⟨setterString i, false⟩ : Ident)) fun i hi j hj hij => by
    obtain ⟨f, hf, rfl⟩ := List.mem_map.mp hi
    obtain ⟨g, hg, rfl⟩ := List.mem_map.mp hj
    exact setterString_inj (hraw f hf) (hraw g hg) (Ident.mk.inj hij).1
  simpa [namedBuilder, Function.comp_def] using h

/-- The generated builder has the struct's fields in `Option`, in declaration
order, and one setter `with_<field>` per field, with distinct names. A chain of
setter calls on `new()` leaves in each field the argument of the last call to its
setter, or `None` when there was none, so two chains with the same last argument
per field build the same builder. -/
theorem builder_last_write_wins {e : Expansion} (hd : d.data = .struct (.named fs))
    (hnd : (fs.map (·.ident)).Nodup) (h : generateBuilderMacro xid d = .ok e) :
    e.builderStruct.fields = fs.map (fun f => (f.ident, f.ty)) ∧
    e.builderStruct.setters.map (fun s => (s.name, s.field, s.ty)) =
      fs.map (fun f => ((⟨"with_" ++ f.ident.toString, false⟩ : Ident), f.ident, f.ty)) ∧
    (e.builderStruct.setters.map (·.name)).Nodup ∧
    (∀ calls : List (Ident × Val), (∀ c ∈ calls, c.1 ∈ e.builderStruct.setters.map (·.name)) →
      ∃ b, e.builderStruct.runCalls calls = some b ∧
        (∀ f ∈ fs, b f.ident = lastWrite calls ⟨"with_" ++ f.ident.toString, false⟩) ∧
        ∀ k ∉ fs.map (·.ident), b k = none) ∧
    (∀ calls₁ calls₂ : List (Ident × Val),
      (∀ c ∈ calls₁, c.1 ∈ e.builderStruct.setters.map (·.name)) →
      (∀ c ∈ calls₂, c.1 ∈ e.builderStruct.setters.map (·.name)) →
      (∀ f ∈ fs, lastWrite calls₁ ⟨"with_" ++ f.ident.toString, false⟩ =
        lastWrite calls₂ ⟨"with_" ++ f.ident.toString, false⟩) →
      e.builderStruct.runCalls calls₁ = e.builderStruct.runCalls calls₂) := by
  obtain ⟨hok, hb, -⟩ := generateBuilderMacro_named_ok hd h
  have hrun : ∀ calls : List (Ident × Val),
      (∀ c ∈ calls, c.1 ∈ e.builderStruct.setters.map (·.name)) →
      ∃ b, e.builderStruct.runCalls calls = some b ∧
        (∀ f ∈ fs, b f.ident = lastWrite calls ⟨setterString f.ident, false⟩) ∧
        ∀ k ∉ fs.map (·.ident), b k = none := by
    intro calls hcalls
    rw [hb] at hcalls ⊢
    obtain ⟨b, hb', hf, hk⟩ := namedBuilder_foldlM hok calls (fun c hc => by
      obtain ⟨g, hg, he⟩ := List.mem_map.mp (hcalls c hc)
      obtain ⟨f, hf, rfl⟩ := List.mem_map.mp hg
      exact ⟨f, hf, he.symm⟩) (Companion.empty : Companion Val)
    exact ⟨b, hb', fun f hfs => by simpa [Companion.empty] using hf f hfs, hk⟩
  refine ⟨by rw [hb]; rfl, by rw [hb]; simp [namedBuilder, setterString],
    hb ▸ namedBuilder_setters_nodup hok hnd, hrun, fun calls₁ calls₂ h₁ h₂ hlast => ?_⟩
  obtain ⟨b₁, hr₁, hf₁, hk₁⟩ := hrun calls₁ h₁
  obtain ⟨b₂, hr₂, hf₂, hk₂⟩ := hrun calls₂ h₂
  rw [hr₁, hr₂]
  congr 1
  funext k
  by_cases hk : k ∈ fs.map (·.ident)
  · obtain ⟨f, hf, rfl⟩ := List.mem_map.mp hk
    rw [hf₁ f hf, hf₂ f hf]
    exact hlast f hf
  · rw [hk₁ k hk, hk₂ k hk]

theorem org_agent_last_write :
    ∃ (xid : XidTables) (e : Expansion) (e' : Expansion),
      generateBuilderMacro xid orgInput = .ok e ∧ e.builderStruct.name = ⟨"OrgBuilder", false⟩ ∧
      e.builderStruct.runCalls [(⟨"with_org_id", false⟩, "a"), (⟨"with_org_id", false⟩, "b")] =
        e.builderStruct.runCalls [(⟨"with_org_id", false⟩, "b")] ∧
      generateBuilderMacro xid agentInput = .ok e' ∧
      e'.builderStruct.runCalls [(⟨"with_public_key", false⟩, "wut1234"), (⟨"with_role", false⟩, "admin")] =
        e'.builderStruct.runCalls [(⟨"with_role", false⟩, "admin"), (⟨"with_public_key", false⟩, "wut1234")] := by
  let xid : XidTables := ⟨fun _ => false, fun _ => false, fun _ h => h⟩
  obtain ⟨e, he⟩ : ∃ e, generateBuilderMacro xid orgInput = .ok e := ⟨_, rfl⟩
  obtain ⟨e', he'⟩ : ∃ e, generateBuilderMacro xid agentInput = .ok e := ⟨_, rfl⟩
  have hw := (@builder_last_write_wins String xid orgInput orgFields e rfl (by decide) he).2.2.2.2
  have hw' := (@builder_last_write_wins String xid agentInput agentFields e' rfl (by decide) he').2.2.2.2
  obtain ⟨-, hb, -⟩ := generateBuilderMacro_named_ok rfl he
  obtain ⟨-, hb', -⟩ := generateBuilderMacro_named_ok rfl he'
  refine ⟨xid, e, e', he, by rw [hb]; rfl, hw _ _ ?_ ?_ (by decide), he', hw' _ _ ?_ ?_ (by decide)⟩ <;>
    simp only [hb, hb'] <;> decide

end Setters

section RoundTrip
variable {Val : Type} {dflt : Ty → Val} {xid : XidTables} {d : DeriveInput} {fs : List NamedField}

/-- Calling every setter once, in any order, and then `build` gives back the
struct with exactly the values passed, `#[optional]` fields included. -/
theorem build_after_every_setter {e : Expansion} (hd : d.data = .struct (.named fs))
    (hnd : (fs.map (·.ident)).Nodup) (hgen : hasGenBuildFnAttr d.attrs = true)
    (h : generateBuilderMacro xid d = .ok e) (val : NamedField → Val) (calls : List (Ident × Val))
    (hcalls : calls.Perm (fs.map fun f => (⟨"with_" ++ f.ident.toString, false⟩, val f))) :
    ∃ impl b, e.builderStruct.buildImpl = some impl ∧ e.builderStruct.runCalls calls = some b ∧
      impl.run dflt e.builderStruct b = some (.ok (fs.map fun f => (f.ident, val f))) := by
  obtain ⟨hok, hb, -⟩ := generateBuilderMacro_named_ok hd h
  have hkeys : (calls.map Prod.fst).Nodup := by
    rw [(hcalls.map Prod.fst).nodup_iff]
    simpa [namedBuilder, Function.comp_def] using namedBuilder_setters_nodup hok hnd
  obtain ⟨b, hrun, hfield, -⟩ := namedBuilder_foldlM hok calls (fun c hc => by
    obtain ⟨f, hf, rfl⟩ := List.mem_map.mp (hcalls.subset hc)
    exact ⟨f, hf, rfl⟩) Companion.empty
  have hval : ∀ f ∈ fs, b f.ident = some (val f) := fun f hf => by
    rw [hfield f hf, setterString,
      lastWrite_of_mem hkeys (hcalls.mem_iff.mpr (List.mem_map_of_mem _ hf))]
    rfl
  refine ⟨namedBuildImpl d fs, b, by simp [hb, namedBuilder, hgen], by rw [hb]; exact hrun, ?_⟩
  rw [hb, namedBuildImpl_run hnd, RecordDecl.validate, RecordDecl.ofNamed,
    mapM_resolve_ok fun f hf _ => ?_]
  · simp only [List.map_map, Function.comp_def, FieldDecl.ofNamed]
    rw [List.map_congr_left (g := fun f => (f.ident, val f)) fun f hf => by rw [hval f hf]; rfl]
  · obtain ⟨g, hg, rfl⟩ := List.mem_map.mp hf
    simp [FieldDecl.ofNamed, hval g hg]

theorem agent_round_trip :
    ∃ (xid : XidTables) (e : Expansion) (impl : BuildImpl) (b : Companion String),
      generateBuilderMacro xid agentInput = .ok e ∧ e.builderStruct.buildImpl = some impl ∧
      e.builderStruct.runCalls [(⟨"with_role", false⟩, "spy"), (⟨"with_known_enemies", false⟩, "tim"),
        (⟨"with_wears_crocks", false⟩, "true"), (⟨"with_public_key", false⟩, "pk")] = some b ∧
      impl.run (fun _ => "") e.builderStruct b =
        some (.ok [(⟨"public_key", false⟩, "pk"), (⟨"wears_crocks", false⟩, "true"),
          (⟨"known_enemies", false⟩, "tim"), (⟨"role", false⟩, "spy")]) := by
  let xid : XidTables := ⟨fun _ => false, fun _ => false, fun _ h => h⟩
  obtain ⟨e, he⟩ : ∃ e, generateBuilderMacro xid agentInput = .ok e := ⟨_, rfl⟩
  obtain ⟨impl, b, himpl, hrun, hbuild⟩ := @build_after_every_setter String (fun _ => "") xid
    agentInput agentFields e rfl (by decide) rfl he
    (fun f => [("public_key", "pk"), ("wears_crocks", "true"), ("known_enemies", "tim"),
      ("role", "spy")].lookup f.ident.sym |>.getD "")
    _ (List.reverse_perm _)
  exact ⟨xid, e, impl, b, he, himpl, hrun, hbuild⟩

end RoundTrip

end TransactDerive
