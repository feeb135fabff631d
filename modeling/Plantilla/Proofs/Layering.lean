import Plantilla.Proofs.Keys
/-!
# Layering — which layer decides a setting

While the layers are laid one over the other, each of the four settings has a scalar in its place, whatever else there
is in the tree (`Holds`), and a layer changes only those that it sets.  So the last file that sets a key decides it,
unless there is an override, wherever that was added (`load_eq_decisive`).
-/
namespace Plantilla

open Setting (PathStep)

namespace Config

/-- A fold that can fail goes through, and keeps to another fold, if each of its steps does. -/
theorem foldlM_simulates {α σ τ : Type} {f : σ → α → Except Fault σ} {g : τ → α → τ} {R : σ → τ → Prop} :
    ∀ {as : List α} {s : σ} {t : τ}, (∀ a ∈ as, ∀ s t, R s t → ∃ s', f s a = .ok s' ∧ R s' (g t a)) → R s t →
      ∃ s', as.foldlM f s = .ok s' ∧ R s' (as.foldl g t)
  | [], s, _, _, h => ⟨s, rfl, h⟩
  | a :: as, s, t, hstep, h => by
    obtain ⟨s₁, hs₁, h₁⟩ := hstep a List.mem_cons_self s t h
    obtain ⟨s', hs', h'⟩ := foldlM_simulates (fun a' ha' => hstep a' (List.mem_cons_of_mem a ha')) h₁
    refine ⟨s', ?_, h'⟩
    rw [List.foldlM_cons, hs₁]
    exact hs'

/-! ## The scalars in their places -/

/-- Each of the four settings has its scalar in its place. -/
def Holds (s : Setting) (vals : Key → Scalar) : Prop :=
  ∀ k : Key, ∃ group, s.child? k.group = some group ∧ ∃ origin, group.child? k.name = some (.scalar origin (vals k))

theorem holds_defaults : Holds defaults Key.initial := by
  intro k
  cases k <;> exact ⟨_, rfl, _, rfl⟩

theorem eq_table_of_child? {s v : Setting} {key : String} (h : s.child? key = some v) :
    ∃ origin fields, s = .table origin fields ∧ fields.lookup key = some v := by
  cases s with
  | table origin fields => exact ⟨origin, fields, rfl, h⟩
  | scalar origin w => cases h
  | list origin items => cases h

/-- **The scalars in their places make up the configuration that they give.** -/
theorem ofSetting_of_holds {s : Setting} {vals : Key → Scalar} {c : Config} (hs : Holds s vals)
    (hc : ∀ k, Key.Gives c k (vals k)) : ofSetting s = .ok c := by
  obtain ⟨recovery, hrecovery, o₁, hmode⟩ := hs .mode
  obtain ⟨recovery', hrecovery', o₂, hquiet⟩ := hs .quietShifts
  obtain ⟨output, houtput, o₃, hformat⟩ := hs .format
  obtain ⟨output', houtput', o₄, hshown⟩ := hs .showExpected
  obtain rfl : recovery = recovery' := Option.some.inj (hrecovery.symm.trans hrecovery')
  obtain rfl : output = output' := Option.some.inj (houtput.symm.trans houtput')
  obtain ⟨o, fields, rfl, hmode⟩ := eq_table_of_child? hmode
  obtain ⟨o', fields', rfl, hformat⟩ := eq_table_of_child? hformat
  have hquiet : fields.lookup "quiet_shifts" = some (.scalar o₂ (vals .quietShifts)) := hquiet
  have hshown : fields'.lookup "show_expected" = some (.scalar o₄ (vals .showExpected)) := hshown
  have hmode : fields.lookup "mode" = some (.scalar o₁ (vals .mode)) := hmode
  have hformat : fields'.lookup "format" = some (.scalar o₃ (vals .format)) := hformat
  have hfirst : readRecovery (.table o fields) = .ok c.recovery := by
    simp only [readRecovery, readPair, hmode, hquiet, Option.mapM_some,
      readChoice_of_isName (hc .mode) (find?_modeNames _), readCount_of_isCount (hc .quietShifts)]
    rfl
  have hsecond : readOutput (.table o' fields') = .ok (c.format, c.showExpected) := by
    simp only [readOutput, readPair, hformat, hshown, Option.mapM_some,
      readChoice_of_isName (hc .format) (find?_formatNames _), readFlag_of_isFlag (hc .showExpected)]
    rfl
  have hrecovery : s.fields.lookup "recovery" = some (.table o fields) := hrecovery
  have houtput : s.fields.lookup "output" = some (.table o' fields') := houtput
  simp only [ofSetting, hrecovery, houtput, Option.mapM_some, hfirst, hsecond]
  rfl

/-! ## What a file sets -/

/-- Scalars with the names of the table and the key that they are set for, in order. -/
abbrev Writes := List ((String × String) × Scalar)

/-- The scalars with those that are written over them; of several for one setting, the last counts. -/
def latest (ws : Writes) (vals : Key → Scalar) (k : Key) : Scalar := (ws.reverse.lookup (k.group, k.name)).getD (vals k)

theorem latest_append (ws ws' : Writes) (vals : Key → Scalar) :
    latest (ws ++ ws') vals = latest ws' (latest ws vals) := by
  funext k
  simp only [latest, List.reverse_append, List.lookup_append]
  cases ws'.reverse.lookup (k.group, k.name) <;> rfl

theorem foldl_latest {α : Type} (f : α → Writes) : ∀ (as : List α) (vals : Key → Scalar),
    as.foldl (fun vals a => latest (f a) vals) vals = latest (as.flatMap f) vals
  | [], _ => rfl
  | a :: as, vals => by rw [List.foldl_cons, foldl_latest f as, List.flatMap_cons, latest_append]

def scalar? : Toml.Value → Option Scalar
  | .text s => some (.text s)
  | .integer n => some (.integer n)
  | .float x => some (.real x)
  | .truth b => some (.truth b)
  | .moment m => some (.text m.display)
  | .array _ | .table _ => none

def tableFields : Toml.Value → List (String × Toml.Value)
  | .table fields => fields
  | _ => []

/-- What a field of a table sets, in a group of this name. -/
def write? (group : String) (q : String × Toml.Value) : Option ((String × String) × Scalar) :=
  (scalar? q.2).map fun v => ((group, q.1), v)

def fieldWrites (p : String × Toml.Value) : Writes := (tableFields p.2).filterMap (write? p.1)

/-- What the fields of a file set. -/
def fileWrites (fields : List (String × Toml.Value)) : Writes := fields.flatMap fieldWrites

/-- A field of a file is at a plain key, and in a group of settings it is a table: each of its keys is plain, and each
setting has a valid scalar. -/
def FieldFits (p : String × Toml.Value) : Prop :=
  IsPlain p.1 ∧ ∀ k : Key, k.group = p.1 → ∃ inner, p.2 = .table inner ∧
    ∀ q ∈ inner, IsPlain q.1 ∧ (q.1 = k.name → ∃ v c, scalar? q.2 = some v ∧ Key.Gives c k v)

theorem fieldFits_of_ne {p : String × Toml.Value} (hp : IsPlain p.1) (hne : ∀ k : Key, k.group ≠ p.1) : FieldFits p :=
  ⟨hp, fun k hk => absurd hk (hne k)⟩

theorem fieldFits_single {k : Key} {w : Toml.Value} {v : Scalar} {c : Config} (hv : scalar? w = some v)
    (hc : Key.Gives c k v) : FieldFits (k.group, .table [(k.name, w)]) := by
  refine ⟨k.isPlain_group, fun k' hgroup => ⟨_, rfl, fun q hq => ?_⟩⟩
  obtain rfl := List.mem_singleton.1 hq
  refine ⟨k.isPlain_name, fun hname => ?_⟩
  obtain rfl := Key.eq_of_group_name hgroup hname.symm
  exact ⟨v, c, hv, hc⟩

theorem ofToml_of_scalar? {w : Toml.Value} {v : Scalar} (h : scalar? w = some v) (origin : Option String) :
    Setting.ofToml origin w = .scalar origin v := by
  cases w <;> cases h <;> rw [Setting.ofToml]

theorem ofTomlFields_eq_map (origin : Option String) : ∀ fields : List (String × Toml.Value),
    Setting.ofTomlFields origin fields = fields.map fun q => (q.1, Setting.ofToml origin q.2)
  | [] => by rw [Setting.ofTomlFields]; rfl
  | (key, v) :: fields => by rw [Setting.ofTomlFields, ofTomlFields_eq_map origin fields]; rfl

theorem lookup_ofToml (origin : Option String) (group key : String) : ∀ fields : List (String × Toml.Value),
    (∀ q ∈ fields, q.1 = key → ∃ v, scalar? q.2 = some v) →
    (fields.map fun q => (q.1, Setting.ofToml origin q.2)).lookup key
      = ((fields.filterMap (write? group)).lookup (group, key)).map (.scalar origin)
  | [], _ => rfl
  | (k, w) :: fields, h => by
    have ih := lookup_ofToml origin group key fields fun q hq => h q (List.mem_cons_of_mem _ hq)
    rw [List.map_cons, lookup_cons_eq_ite]
    by_cases hkey : key = k
    · subst hkey
      obtain ⟨v, hv⟩ := h _ List.mem_cons_self rfl
      have hwrite : write? group (key, w) = some ((group, key), v) := by rw [write?, hv, Option.map_some]
      rw [if_pos rfl, ofToml_of_scalar? hv, List.filterMap_cons_some hwrite, lookup_cons_eq_ite, if_pos rfl,
        Option.map_some]
    · rw [if_neg hkey, ih]
      cases hw : scalar? w with
      | none => rw [List.filterMap_cons_none (by rw [write?, hw, Option.map_none])]
      | some v =>
        have hne : (group, key) ≠ (group, k) := fun heq => hkey (Prod.mk.inj heq).2
        rw [List.filterMap_cons_some (by rw [write?, hw, Option.map_some]), lookup_cons_eq_ite, if_neg hne]

theorem lookup_fieldWrites_of_ne {group key : String} {p : String × Toml.Value} (hne : group ≠ p.1) :
    (fieldWrites p).reverse.lookup (group, key) = none := by
  rw [List.lookup_eq_none_iff]
  intro w hw
  obtain ⟨q, _, hq⟩ := List.mem_filterMap.1 (List.mem_reverse.1 hw)
  obtain ⟨v, _, rfl⟩ := Option.map_eq_some_iff.1 hq
  simp [hne]

/-- **A field of a file changes the settings that it sets**, and no others. -/
theorem Holds.put {s : Setting} {vals : Key → Scalar} (hs : Holds s vals) {p : String × Toml.Value} (hp : FieldFits p)
    (origin : Option String) : Holds (s.put p.1 (.ofToml origin p.2)) (latest (fieldWrites p) vals) := by
  intro k
  have hlower := Text.lowerCase_of_isPlain hp.1
  obtain ⟨group, hgroup, o, hvalue⟩ := hs k
  -- a field of the setting's own group is laid over the group key by key; any other leaves the group alone
  by_cases hk : k.group = p.1
  · obtain ⟨inner, hinner, hfit⟩ := hp.2 k hk
    have hplain : ∀ q ∈ Setting.ofTomlFields origin inner, Text.lowerCase q.1 = q.1 := by
      rw [ofTomlFields_eq_map]
      intro q hq
      obtain ⟨q', hq', rfl⟩ := List.mem_map.1 hq
      exact Text.lowerCase_of_isPlain (hfit q' hq').1
    have hscalar : ∀ q ∈ inner, q.1 = k.name → ∃ v, scalar? q.2 = some v := by
      intro q hq hname
      obtain ⟨v, _, hv, _⟩ := (hfit q hq).2 hname
      exact ⟨v, hv⟩
    have hscalar' : ∀ q ∈ Setting.ofTomlFields origin inner, q.1 = k.name → ∃ o v, q.2 = .scalar o v := by
      rw [ofTomlFields_eq_map]
      intro q hq hname
      obtain ⟨q', hq', rfl⟩ := List.mem_map.1 hq
      obtain ⟨v, hv⟩ := hscalar q' hq' hname
      exact ⟨origin, v, ofToml_of_scalar? hv origin⟩
    have hchild := Setting.child?_putAll k.name (Setting.ofTomlFields origin inner) group hplain hscalar'
    have hwrites : fieldWrites p = inner.filterMap (write? k.group) := by rw [fieldWrites, hinner, hk]; rfl
    rw [hvalue, ofTomlFields_eq_map, ← List.map_reverse,
      lookup_ofToml origin k.group k.name _ fun q hq => hscalar q (List.mem_reverse.1 hq)] at hchild
    rw [hinner, Setting.ofToml, Setting.put_table, hlower, ← hk, hgroup, Option.getD_some]
    refine ⟨_, by rw [Setting.child?_setKey, if_pos rfl], ?_⟩
    rw [latest, hwrites, ← List.filterMap_reverse, ofTomlFields_eq_map, hchild]
    cases (inner.reverse.filterMap (write? k.group)).lookup (k.group, k.name) with
    | none => exact ⟨o, rfl⟩
    | some v => exact ⟨origin, rfl⟩
  · refine ⟨group, ?_, o, ?_⟩
    · rw [Setting.child?_put_of_ne (by rwa [hlower]), hgroup]
    · rw [latest, lookup_fieldWrites_of_ne hk, Option.getD_none, hvalue]

theorem Holds.overlay (origin : String) {fields : List (String × Toml.Value)} {s : Setting} {vals : Key → Scalar}
    (hs : Holds s vals) (hfit : ∀ p ∈ fields, FieldFits p) :
    ∃ s', overlay origin fields s = .ok s' ∧ Holds s' (latest (fileWrites fields) vals) := by
  have hstep : ∀ p ∈ fields, ∀ s vals, Holds s vals →
      ∃ s', assign (topLevelSteps p.1) (.ofToml (some origin) p.2) s = .ok s' ∧
        Holds s' (latest (fieldWrites p) vals) := by
    intro p hp s vals hs
    refine ⟨_, ?_, hs.put (hfit p hp) (some origin)⟩
    rw [assign, topLevelSteps_of_isPlain (hfit p hp).1, Setting.assign?]
  obtain ⟨s', hs', hholds⟩ := foldlM_simulates hstep hs
  exact ⟨s', hs', foldl_latest fieldWrites fields vals ▸ hholds⟩

/-! ## Files -/

/-- The fields of a file that can be read as TOML. -/
def fieldsOf? (files : Files) (path : String) : Option (List (String × Toml.Value)) :=
  match readFile files path with
  | .error _ => none
  | .ok (_, content) =>
    match Toml.parse? content with
    | some (.table fields) => some fields
    | _ => none

namespace Layer

/-- What a layer sets, if it is a file. -/
def writes (files : Files) : Layer → Writes
  | .file path _ => fileWrites ((fieldsOf? files path).getD [])
  | .override _ _ => []

/-- The key and the scalar of an override. -/
def override? : Layer → Option (String × Scalar)
  | .override key (.scalar _ v) => some (key, v)
  | _ => none

/-- A file is well-formed and its fields fit, or it is optional and cannot be read; an override is of one of the four
settings and valid for it. -/
def Fits (files : Files) : Layer → Prop
  | .file path required =>
    (∃ origin content fields, readFile files path = .ok (origin, content) ∧
      Toml.parse? content = some (.table fields) ∧ ∀ p ∈ fields, FieldFits p) ∨
    (required = false ∧ ∃ fault, readFile files path = .error fault)
  | .override key v => ∃ k origin w c, key = Key.dotted k ∧ v = .scalar origin w ∧ Key.Gives c k w

end Layer

variable {files : Files} {vals : Key → Scalar}

theorem writes_of_parse {path origin content : String} {fields : List (String × Toml.Value)}
    (hread : readFile files path = .ok (origin, content)) (hparse : Toml.parse? content = some (.table fields))
    (required : Bool) : (Layer.file path required).writes files = fileWrites fields := by
  simp only [Layer.writes, fieldsOf?, hread, hparse, Option.getD_some]

theorem writes_of_error {path : String} {fault : Fault} (hread : readFile files path = .error fault) (required : Bool) :
    (Layer.file path required).writes files = [] := by
  simp only [Layer.writes, fieldsOf?, hread, Option.getD_none, fileWrites, List.flatMap_nil]

theorem Holds.addFile {path : String} {required : Bool} {s : Setting} (hs : Holds s vals)
    (hfit : (Layer.file path required).Fits files) :
    ∃ s', Config.addFile files path required s = .ok s' ∧
      Holds s' (latest ((Layer.file path required).writes files) vals) := by
  rcases hfit with ⟨origin, content, fields, hread, hparse, hfields⟩ | ⟨rfl, fault, hread⟩
  · rw [writes_of_parse hread hparse]
    obtain ⟨s', hs', hholds⟩ := Holds.overlay origin hs hfields
    exact ⟨s', by simp only [Config.addFile, hread, hparse, hs'], hholds⟩
  · rw [writes_of_error hread]
    exact ⟨s, by simp only [Config.addFile, hread]; rfl, hs⟩

theorem Holds.addFiles {layers : List Layer} {s : Setting} (hs : Holds s vals)
    (hfit : ∀ layer ∈ layers, layer.Fits files) :
    ∃ s', Config.addFiles files layers s = .ok s' ∧ Holds s' (latest (layers.flatMap (Layer.writes files)) vals) := by
  rw [← foldl_latest]
  refine foldlM_simulates (fun layer hlayer s vals hs => ?_) hs
  cases layer with
  | file path required => exact hs.addFile (hfit _ hlayer)
  | override key v => exact ⟨s, rfl, hs⟩

/-! ## Overrides -/

/-- The scalar that a setting is. -/
def valueOf? : Setting → Option Scalar
  | .scalar _ v => some v
  | _ => none

/-- The changes are the overrides that were added, each setting's once and with the scalar that was added last. -/
structure Agrees (changes : List (List PathStep × Setting)) (added : List (String × Scalar)) : Prop where
  nodup : (changes.map Prod.fst).Nodup
  known : ∀ p ∈ changes, ∃ (k : Key) (origin : Option String) (v : Scalar), p = (k.steps, .scalar origin v)
  last : ∀ k : Key, (changes.lookup k.steps).bind valueOf? = added.reverse.lookup k.dotted

theorem lookup_addOverride (path path' : List PathStep) (v : Setting) (changes : List (List PathStep × Setting)) :
    (addOverride path v changes).lookup path' = if path' = path then some v else changes.lookup path' :=
  lookup_replace (addOverride path v) rfl (fun _ _ _ => rfl) path' changes

theorem mem_addOverride {path : List PathStep} {v : Setting} {p : List PathStep × Setting} :
    ∀ {changes : List (List PathStep × Setting)}, p ∈ addOverride path v changes → p = (path, v) ∨ p ∈ changes
  | [], h => .inl (List.mem_singleton.1 h)
  | (path', w) :: changes, h => by
    rw [addOverride] at h
    by_cases hpath : path' = path
    · rw [if_pos hpath, List.mem_cons, hpath] at h
      exact h.imp_right (List.mem_cons_of_mem _)
    · rw [if_neg hpath, List.mem_cons] at h
      rcases h with rfl | h
      · exact .inr List.mem_cons_self
      · exact (mem_addOverride h).imp_right (List.mem_cons_of_mem _)

theorem nodup_addOverride (path : List PathStep) (v : Setting) : ∀ {changes : List (List PathStep × Setting)},
    (changes.map Prod.fst).Nodup → ((addOverride path v changes).map Prod.fst).Nodup
  | [], _ => List.nodup_cons.2 ⟨List.not_mem_nil, List.nodup_nil⟩
  | (path', w) :: changes, h => by
    rw [addOverride]
    by_cases hpath : path' = path
    · rw [if_pos hpath]
      exact h
    · rw [List.map_cons, List.nodup_cons] at h
      rw [if_neg hpath, List.map_cons, List.nodup_cons]
      refine ⟨fun hmem => ?_, nodup_addOverride path v h.2⟩
      obtain ⟨p, hp, hfst⟩ := List.mem_map.1 hmem
      rcases mem_addOverride hp with rfl | hp
      · exact hpath hfst.symm
      · exact h.1 (List.mem_map.2 ⟨p, hp, hfst⟩)

theorem Agrees.nil : Agrees [] [] := ⟨List.nodup_nil, by simp, fun _ => rfl⟩

theorem Agrees.add {changes : List (List PathStep × Setting)} {added : List (String × Scalar)}
    (h : Agrees changes added) (k : Key) (origin : Option String) (v : Scalar) :
    Agrees (addOverride k.steps (.scalar origin v) changes) (added ++ [(k.dotted, v)]) where
  nodup := nodup_addOverride _ _ h.nodup
  known p hp := by
    rcases mem_addOverride hp with rfl | hp
    · exact ⟨k, origin, v, rfl⟩
    · exact h.known p hp
  last k' := by
    have hlast := h.last k'
    rw [lookup_addOverride, List.reverse_append, List.reverse_singleton, List.singleton_append, lookup_cons_eq_ite]
    by_cases hk : k' = k
    · subst hk
      rw [if_pos rfl, if_pos rfl]
      rfl
    · rw [if_neg fun hsteps => hk (Key.steps_inj hsteps), if_neg fun hdotted => hk (Key.dotted_inj hdotted), hlast]

/-- Overrides one more layer, as `overrides` goes on. -/
def addLayer (changes : List (List PathStep × Setting)) : Layer → Except Fault (List (List PathStep × Setting))
  | .file _ _ => .ok changes
  | .override key v =>
    match KeyPath.parse? key with
    | some path => .ok (addOverride path v changes)
    | none => .error (.malformedKey key)

theorem overrides_eq_foldlM (layers : List Layer) : overrides layers = layers.foldlM addLayer [] := rfl

theorem Agrees.addLayer {changes : List (List PathStep × Setting)} {added : List (String × Scalar)}
    (h : Agrees changes added) {layer : Layer} (hfit : layer.Fits files) :
    ∃ changes', Config.addLayer changes layer = .ok changes' ∧ Agrees changes' (added ++ layer.override?.toList) := by
  cases layer with
  | file path required => exact ⟨changes, rfl, by simpa [Layer.override?] using h⟩
  | override key v =>
    obtain ⟨k, origin, w, c, rfl, rfl, _⟩ := hfit
    exact ⟨_, by rw [Config.addLayer, Key.parse?_dotted], h.add k origin w⟩

theorem foldl_override? : ∀ (layers : List Layer) (added : List (String × Scalar)),
    layers.foldl (fun added layer => added ++ layer.override?.toList) added
      = added ++ layers.filterMap Layer.override?
  | [], added => by rw [List.foldl_nil, List.filterMap_nil, List.append_nil]
  | layer :: layers, added => by
    rw [List.foldl_cons, foldl_override? layers, List.append_assoc]
    cases hover : layer.override? with
    | none => rw [List.filterMap_cons_none hover, Option.toList_none, List.nil_append]
    | some p => rw [List.filterMap_cons_some hover, Option.toList_some, List.singleton_append]

theorem Agrees.overrides {layers : List Layer} (hfit : ∀ layer ∈ layers, layer.Fits files) :
    ∃ changes, Config.overrides layers = .ok changes ∧ Agrees changes (layers.filterMap Layer.override?) := by
  have hstep : ∀ layer ∈ layers, ∀ changes added, Agrees changes added →
      ∃ changes', Config.addLayer changes layer = .ok changes' ∧ Agrees changes' (added ++ layer.override?.toList) :=
    fun layer hlayer changes added h => h.addLayer (hfit layer hlayer)
  obtain ⟨changes, hchanges, hagrees⟩ := foldlM_simulates hstep .nil
  rw [foldl_override?] at hagrees
  exact ⟨changes, hchanges, hagrees⟩

theorem Holds.assign {s : Setting} (hs : Holds s vals) (k : Key) (origin : Option String) (v : Scalar) :
    ∃ s', assign k.steps (.scalar origin v) s = .ok s' ∧ Holds s' (Function.update vals k v) := by
  obtain ⟨group, hgroup, _⟩ := hs k
  have hassign : Setting.assign? (.scalar origin v) k.steps s
      = some (Setting.setKey k.group (Setting.setKey k.name (.scalar origin v) group) s) := by
    rw [Key.steps, Setting.assign?_key_key _ _ (Text.lowerCase_of_isPlain k.isPlain_group), hgroup, Option.getD_some,
      Setting.put_scalar, Text.lowerCase_of_isPlain k.isPlain_name]
  refine ⟨_, by rw [Config.assign, hassign], fun k' => ?_⟩
  obtain ⟨group', hgroup', o, hvalue⟩ := hs k'
  rw [Setting.child?_setKey]
  -- the other setting of the group keeps its scalar, since its name differs
  by_cases hsame : k'.group = k.group
  · obtain rfl : group' = group := by
      rw [hsame, hgroup] at hgroup'
      exact (Option.some.inj hgroup').symm
    refine ⟨_, if_pos hsame, ?_⟩
    rw [Setting.child?_setKey]
    by_cases hname : k'.name = k.name
    · obtain rfl := Key.eq_of_group_name hsame hname
      exact ⟨origin, by rw [if_pos rfl, Function.update_self]⟩
    · have hk : k' ≠ k := fun hk => hname (congrArg Key.name hk)
      exact ⟨o, by rw [if_neg hname, hvalue, Function.update_of_ne hk]⟩
  · have hk : k' ≠ k := fun hk => hsame (congrArg Key.group hk)
    exact ⟨group', by rw [if_neg hsame, hgroup'], o, by rw [hvalue, Function.update_of_ne hk]⟩

/-- The scalars with those of the changes in their places. -/
def changed (changes : List (List PathStep × Setting)) (vals : Key → Scalar) (k : Key) : Scalar :=
  ((changes.lookup k.steps).bind valueOf?).getD (vals k)

theorem changed_cons {k : Key} {changes : List (List PathStep × Setting)} (hk : k.steps ∉ changes.map Prod.fst)
    (origin : Option String) (v : Scalar) (vals : Key → Scalar) :
    changed ((k.steps, .scalar origin v) :: changes) vals = changed changes (Function.update vals k v) := by
  funext k'
  rw [changed, changed, lookup_cons_eq_ite]
  by_cases hsame : k' = k
  · subst hsame
    have hnone : changes.lookup k'.steps = none := by
      rw [List.lookup_eq_none_iff]
      intro q hq
      have hne : k'.steps ≠ q.1 := fun heq => hk (List.mem_map.2 ⟨q, hq, heq.symm⟩)
      simpa using hne
    rw [hnone, if_pos rfl, Function.update_self]
    rfl
  · rw [Function.update_of_ne hsame, if_neg fun hsteps => hsame (Key.steps_inj hsteps)]

theorem Holds.assignAll : ∀ (changes : List (List PathStep × Setting)) {s : Setting} {vals : Key → Scalar},
    Holds s vals → (changes.map Prod.fst).Nodup →
    (∀ p ∈ changes, ∃ (k : Key) (origin : Option String) (v : Scalar), p = (k.steps, .scalar origin v)) →
    ∃ s', changes.foldlM (fun s p => Config.assign p.1 p.2 s) s = .ok s' ∧ Holds s' (changed changes vals)
  | [], s, _, hs, _, _ => ⟨s, rfl, hs⟩
  | p :: changes, s, vals, hs, hnodup, hknown => by
    obtain ⟨k, origin, v, rfl⟩ := hknown p List.mem_cons_self
    obtain ⟨s₁, hs₁, hholds₁⟩ := hs.assign k origin v
    rw [List.map_cons, List.nodup_cons] at hnodup
    obtain ⟨s', hs', hholds⟩ := Holds.assignAll changes hholds₁ hnodup.2 fun q hq =>
      hknown q (List.mem_cons_of_mem _ hq)
    refine ⟨s', ?_, ?_⟩
    · rw [List.foldlM_cons, hs₁]
      exact hs'
    · rw [changed_cons hnodup.1]
      exact hholds

/-! ## The whole -/

/-- The scalar that decides a setting: its last override, else what the last file that sets it says, else the
default. -/
def decisive (files : Files) (layers : List Layer) (k : Key) : Scalar :=
  ((layers.filterMap Layer.override?).reverse.lookup k.dotted).getD
    (latest (layers.flatMap (Layer.writes files)) Key.initial k)

theorem exists_gives_initial (k : Key) : ∃ c, Key.Gives c k k.initial := by
  refine ⟨⟨⟨.synchronize, 3⟩, .text, true⟩, ?_⟩
  cases k with
  | mode => exact ⟨"synchronize", rfl, Text.lowerCase_of_isPlain (by decide +kernel)⟩
  | quietShifts => exact IsCount.integer
  | format => exact ⟨"text", rfl, Text.lowerCase_of_isPlain (by decide +kernel)⟩
  | showExpected => exact IsFlag.truth

theorem exists_gives_of_mem_writes {layer : Layer} (hfit : layer.Fits files) {k : Key} {v : Scalar}
    (hv : ((k.group, k.name), v) ∈ layer.writes files) : ∃ c, Key.Gives c k v := by
  cases layer with
  | override key v => cases hv
  | file path required =>
    rcases hfit with ⟨origin, content, fields, hread, hparse, hfields⟩ | ⟨rfl, fault, hread⟩
    · rw [writes_of_parse hread hparse] at hv
      obtain ⟨p, hp, hv⟩ := List.mem_flatMap.1 hv
      obtain ⟨q, hq, hwrite⟩ := List.mem_filterMap.1 hv
      obtain ⟨w, hw, heq⟩ := Option.map_eq_some_iff.1 hwrite
      obtain ⟨⟨hgroup, hname⟩, rfl⟩ : (p.1 = k.group ∧ q.1 = k.name) ∧ w = v := by simpa using heq
      obtain ⟨inner, hinner, hfit⟩ := (hfields p hp).2 k hgroup.symm
      rw [hinner] at hq
      obtain ⟨v, c, hv, hc⟩ := (hfit q hq).2 hname
      obtain rfl : v = w := Option.some.inj (hv.symm.trans hw)
      exact ⟨c, hc⟩
    · rw [writes_of_error hread] at hv
      cases hv

theorem exists_gives_of_mem_override? {layer : Layer} (hfit : layer.Fits files) {k : Key} {v : Scalar}
    (hv : layer.override? = some (k.dotted, v)) : ∃ c, Key.Gives c k v := by
  cases layer with
  | file path required => cases hv
  | override key s =>
    obtain ⟨k', origin, w, c, rfl, rfl, hc⟩ := hfit
    obtain ⟨hkey, rfl⟩ : k'.dotted = k.dotted ∧ w = v := by simpa [Layer.override?] using hv
    obtain rfl := Key.dotted_inj hkey
    exact ⟨c, hc⟩

theorem mem_of_lookup_reverse {α β : Type} [BEq α] [LawfulBEq α] {fields : List (α × β)} {key : α} {v : β}
    (h : fields.reverse.lookup key = some v) : (key, v) ∈ fields := by
  obtain ⟨before, after, hsplit, _⟩ := List.lookup_eq_some_iff.1 h
  exact List.mem_reverse.1 (hsplit ▸ List.mem_append_right _ List.mem_cons_self)

theorem exists_gives_decisive {layers : List Layer} (hfit : ∀ layer ∈ layers, layer.Fits files) (k : Key) :
    ∃ c, Key.Gives c k (decisive files layers k) := by
  unfold decisive
  cases hover : (layers.filterMap Layer.override?).reverse.lookup k.dotted with
  | some v =>
    obtain ⟨layer, hlayer, hv⟩ := List.mem_filterMap.1 (mem_of_lookup_reverse hover)
    exact exists_gives_of_mem_override? (hfit layer hlayer) hv
  | none =>
    unfold latest
    cases hfile : (layers.flatMap (Layer.writes files)).reverse.lookup (k.group, k.name) with
    | some v =>
      obtain ⟨layer, hlayer, hv⟩ := List.mem_flatMap.1 (mem_of_lookup_reverse hfile)
      exact exists_gives_of_mem_writes (hfit layer hlayer) hv
    | none => exact exists_gives_initial k

/-- **A configuration is decided key by key.**  Layers that fit make up a configuration.  It is the one that the four
deciding scalars give: each setting has its last override, wherever that was added, else its value in the last file that
sets it, else its default.  What else the files hold and what cannot be read has no part in it. -/
theorem load_eq_decisive (files : Files) (layers : List Layer) (hfit : ∀ layer ∈ layers, layer.Fits files) :
    ∃ c, load files layers = .ok c ∧ ∀ c', (∀ k, Key.Gives c' k (decisive files layers k)) ↔ c' = c := by
  obtain ⟨changes, hchanges, hagrees⟩ := Agrees.overrides hfit
  obtain ⟨merged, hmerged, hholds⟩ := holds_defaults.addFiles hfit
  obtain ⟨s, hs, hsettled⟩ := hholds.assignAll changes hagrees.nodup hagrees.known
  have hvals : changed changes (latest (layers.flatMap (Layer.writes files)) Key.initial) = decisive files layers := by
    funext k
    rw [changed, hagrees.last k]
    rfl
  rw [hvals] at hsettled
  obtain ⟨c, hc⟩ := Key.exists_gives (exists_gives_decisive hfit)
  refine ⟨c, ?_, fun c' => ⟨fun hc' => Key.gives_unique hc hc', fun heq => heq ▸ hc⟩⟩
  rw [load, hchanges]
  show (Config.addFiles files layers defaults >>= fun merged =>
    changes.foldlM (fun s p => Config.assign p.1 p.2 s) merged >>= ofSetting) = .ok c
  rw [hmerged]
  show (changes.foldlM (fun s p => Config.assign p.1 p.2 s) merged >>= ofSetting) = .ok c
  rw [hs]
  exact ofSetting_of_holds hsettled hc

theorem eq_two_tables {o : Option Toml.Value} {first second key key' text : String} {n : Int}
    (h : (match o with
      | some (.table [(a, .table [(b, .text s)]), (c, .table [(d, .integer m)])]) =>
        decide (a = first ∧ b = key ∧ s = text ∧ c = second ∧ d = key' ∧ m = n)
      | _ => false) = true) :
    o = some (.table [(first, .table [(key, .text text)]), (second, .table [(key', .integer n)])]) := by
  split at h
  · obtain ⟨rfl, rfl, rfl, rfl, rfl, rfl⟩ := of_decide_eq_true h
    rfl
  · cases h

/-- The override is on top though both files come after it, and the second file leaves the number of the first. -/
theorem load_eq_decisive_two_files :
    let first := "[output]\nformat = \"json\"\n[recovery]\nquiet_shifts = 7\n"
    let second := "[recovery]\nmode = \"Halt\"\n[other]\nsize = 1\n"
    let files : Files := ⟨fun path =>
      if path = "a.toml" then .file first.toUTF8 else if path = "b.toml" then .file second.toUTF8 else .missing⟩
    let layers := [Layer.override "output.format" (.scalar none (.text "yaml")), .file "a.toml" true, .file "c" false,
      .file "b.toml" true]
    (∀ layer ∈ layers, layer.Fits files) ∧ load files layers = .ok ⟨⟨.halt, 7⟩, .yaml, true⟩ := by
  intro first second files layers
  have hread : readFile files "a.toml" = .ok ("a.toml", first) := by decide +kernel
  have hread' : readFile files "b.toml" = .ok ("b.toml", second) := by decide +kernel
  have hmissing : readFile files "c" = .error (.fileNotFound "c") := by decide +kernel
  have hparse := @eq_two_tables (Toml.parse? first) "output" "recovery" "format" "quiet_shifts" "json" 7
    (by decide +kernel)
  have hparse' := @eq_two_tables (Toml.parse? second) "recovery" "other" "mode" "size" "Halt" 1
    (by decide +kernel)
  have hyaml : IsName (.text "yaml") "yaml" := ⟨_, rfl, by decide +kernel⟩
  have hjson : IsName (.text "json") "json" := ⟨_, rfl, by decide +kernel⟩
  have hhalt : IsName (.text "Halt") "halt" := ⟨_, rfl, by decide +kernel⟩
  have hfit : ∀ layer ∈ layers, layer.Fits files := by
    simp only [layers, List.forall_mem_cons, List.not_mem_nil, false_implies, implies_true, and_true]
    refine ⟨⟨.format, none, _, ⟨⟨.halt, 7⟩, .yaml, true⟩, by decide, rfl, hyaml⟩,
      .inl ⟨_, _, _, hread, hparse, ?_⟩, .inr ⟨rfl, _, hmissing⟩, .inl ⟨_, _, _, hread', hparse', ?_⟩⟩ <;>
      simp only [List.forall_mem_cons, List.not_mem_nil, false_implies, implies_true, and_true]
    · exact ⟨fieldFits_single (k := .format) (c := ⟨⟨.halt, 7⟩, .json, true⟩) rfl hjson,
        fieldFits_single (k := .quietShifts) (c := ⟨⟨.halt, 7⟩, .json, true⟩) rfl .integer⟩
    · exact ⟨fieldFits_single (k := .mode) (c := ⟨⟨.halt, 7⟩, .json, true⟩) rfl hhalt,
        fieldFits_of_ne (by decide +kernel) fun k => by cases k <;> decide⟩
  refine ⟨hfit, ?_⟩
  obtain ⟨c, hload, hc⟩ := load_eq_decisive files layers hfit
  rw [hload, Except.ok.injEq, eq_comm, ← hc]
  have hwrites : layers.flatMap (Layer.writes files) = [(("output", "format"), .text "json"),
      (("recovery", "quiet_shifts"), .integer 7), (("recovery", "mode"), .text "Halt"),
      (("other", "size"), .integer 1)] := by
    simp only [layers, List.flatMap_cons, List.flatMap_nil, writes_of_parse hread hparse, writes_of_error hmissing,
      writes_of_parse hread' hparse']
    rfl
  intro k
  rw [decisive, hwrites]
  cases k with
  | mode => exact hhalt
  | quietShifts => exact .integer
  | format => exact hyaml
  | showExpected => exact .truth

end Config
end Plantilla
