import VzletUr3e.Feetech.JointConfig
import VzletUr3e.Feetech.Registers

/-!
# The overlay of the joint parameters

A file of joint parameters stands for a list of parameter maps. Each map belongs to the servo whose
id it has, and the name above it is a label.

The map by ids that the driver builds has each parameter map under its id, in some order. What is
found in it does not depend on the order, and `configure_joints_` only looks parameters up. So the
bytes it writes are those of the file's value where the file has one for the servo, and those of the
joint's own value otherwise.
-/

namespace VzletUr3e.Feetech

open StateError

variable {Node : Type} {yaml : YamlCpp Node}

/-! ## Parameter maps -/

/-- The scalar of a pair, if the pair has this key. -/
def scalarUnder (yaml : YamlCpp Node) (key : String) (p : Node × Node) : Option (List Char) :=
  if (yaml.asString p.1).toOption = some key then yaml.asScalar p.2 else none

/-- The last scalar under a key. -/
def lastScalar (yaml : YamlCpp Node) (m : List (Node × Node)) (key : String) : Option (List Char) :=
  m.reverse.findSome? (scalarUnder yaml key)

/-- The parameter map that a node stands for. Nothing if a key is not a text. -/
def parameterMap (yaml : YamlCpp Node) (m : List (Node × Node)) :
    Option (String → Option (List Char)) :=
  if ∀ p ∈ m, (yaml.asString p.1).toOption.isSome then some (lastScalar yaml m) else none

/-- The parameter maps below the joints. -/
def parameterMaps (yaml : YamlCpp Node) (entries : List (Node × Node)) :
    List (Option (String → Option (List Char))) :=
  (entries.filterMap fun it ↦ yaml.asMap it.2).map (parameterMap yaml)

/-- The number that a parameter map has under `id`. -/
def idOf (params : String → Option (List Char)) : Option ℤ :=
  (params "id").bind fun text ↦ (stoi text).toOption

/-- The ids of the entries. -/
def entryIds (yaml : YamlCpp Node) (entries : List (Node × Node)) : List (Option ℤ) :=
  (parameterMaps yaml entries).map fun params ↦ params.bind idOf

/-- The names of the joints are texts, no two the same. -/
def NamedApart (yaml : YamlCpp Node) (entries : List (Node × Node)) : Prop :=
  ∃ names : List String, entries.map (fun it ↦ yaml.asString it.1) = names.map .ok ∧ names.Nodup

/-- A file with these entries below `joints:`. -/
def HoldsJoints (yaml : YamlCpp Node) (found : Found Node) (entries : List (Node × Node)) : Prop :=
  ∃ root joints, found = .file (.ok root) ∧ yaml.child root "joints" = .ok (some joints) ∧
    yaml.asMap joints = some entries

/-- The same parameter maps in any order, under any names. -/
def SameMaps (yaml : YamlCpp Node) (entries₁ entries₂ : List (Node × Node)) : Prop :=
  (parameterMaps yaml entries₁).Perm (parameterMaps yaml entries₂)

/-! ## Reading

Keys come as nodes, and later pairs overwrite earlier ones. So a node is read as the function that
gives the last scalar under a key (`find_paramsOf`), and whatever is said of a file below is said of
these functions, not of the order in which they were put together. -/

/-- A pair counts where none behind it has its key. -/
theorem lastScalar_cons (p : Node × Node) (m : List (Node × Node)) (key : String) :
    lastScalar yaml (p :: m) key = (lastScalar yaml m key).or (scalarUnder yaml key p) := by
  rw [lastScalar, List.reverse_cons, List.findSome?_append, lastScalar]
  congr 1
  rw [List.findSome?_singleton]

theorem scalarUnder_of_ok {p : Node × Node} {key : String} (h : yaml.asString p.1 = .ok key)
    (name : String) :
    scalarUnder yaml name p = if name = key then yaml.asScalar p.2 else none := by
  have hkey : (yaml.asString p.1).toOption = some name ↔ name = key := by
    rw [h]
    exact ⟨fun heq ↦ (Option.some.inj heq).symm, fun heq ↦ congrArg some heq.symm⟩
  rw [scalarUnder]
  exact if_congr hkey rfl rfl

theorem parameterMap_cons_of_ok {p : Node × Node} {m : List (Node × Node)} {key : String}
    (h : yaml.asString p.1 = .ok key) : parameterMap yaml (p :: m)
      = (parameterMap yaml m).map fun values name ↦
        (values name).or (if name = key then yaml.asScalar p.2 else none) := by
  have hall : (∀ q ∈ p :: m, (yaml.asString q.1).toOption.isSome)
      ↔ ∀ q ∈ m, (yaml.asString q.1).toOption.isSome := by
    rw [List.forall_mem_cons, h]
    exact and_iff_right rfl
  have hlast : lastScalar yaml (p :: m) = fun name ↦ (lastScalar yaml m name).or
      (if name = key then yaml.asScalar p.2 else none) :=
    funext fun name ↦ by rw [lastScalar_cons, scalarUnder_of_ok h]
  rw [parameterMap, if_congr hall rfl rfl, parameterMap, hlast]
  split <;> rfl

/-- A key that is not a text spoils the map. -/
theorem parameterMap_cons_of_error {p : Node × Node} {m : List (Node × Node)} {what : String}
    (h : yaml.asString p.1 = .error what) : parameterMap yaml (p :: m) = none := by
  refine if_neg fun hall ↦ ?_
  have hp := hall p List.mem_cons_self
  rw [h] at hp
  cases hp

/-- What is read on top of some parameters. -/
theorem paramsOf_eq (m : List (Node × Node)) (params : JointParams) :
    (paramsOf yaml m params).toOption.map JointParams.find
      = (parameterMap yaml m).map fun values key ↦ (values key).or (params.find key) := by
  induction m generalizing params with
  | nil => rfl
  | cons p rest ih =>
    rw [paramsOf]
    cases hkey : yaml.asString p.1 with
    | error what =>
      rw [parameterMap_cons_of_error hkey]
      rfl
    | ok key =>
      rw [parameterMap_cons_of_ok hkey, Option.map_map]
      cases hval : yaml.asScalar p.2 with
      | none =>
        refine (ih params).trans (congrArg (Option.map · _)
          (funext fun values ↦ funext fun name ↦ ?_))
        simp
      | some value =>
        refine (ih _).trans (congrArg (Option.map · _) (funext fun values ↦ funext fun name ↦ ?_))
        dsimp only [Function.comp_apply]
        rw [JointParams.find_set]
        by_cases hname : name = key
        · rw [if_pos hname, if_pos hname, Option.or_assoc, Option.some_or]
        · rw [if_neg hname, if_neg hname, Option.or_none]

/-- **A node is read as its parameter map.** -/
theorem find_paramsOf (m : List (Node × Node)) :
    (paramsOf yaml m JointParams.empty).toOption.map JointParams.find = parameterMap yaml m := by
  rw [paramsOf_eq]
  have hid : (fun (values : String → Option (List Char)) key ↦
      (values key).or (JointParams.empty.find key)) = id :=
    funext fun values ↦ funext fun key ↦ Option.or_none
  rw [hid, Option.map_id]
  rfl

/-- The parameter maps of a map of joints. -/
def JointConfigMap.maps (config : JointConfigMap) : List (Option (String → Option (List Char))) :=
  config.entries.map fun e ↦ some e.2.find

theorem JointConfigMap.names_emplace {config : JointConfigMap} {name : String}
    (h : name ∉ config.entries.map Prod.fst) (params : JointParams) {other : String} :
    other ∈ (config.emplace name params).entries.map Prod.fst
      ↔ other ∈ config.entries.map Prod.fst ∨ other = name := by
  rw [entries_emplace h, List.map_append, List.mem_append, List.map_singleton, List.mem_singleton]

theorem parameterMaps_cons_of_none {it : Node × Node} (h : yaml.asMap it.2 = none)
    (entries : List (Node × Node)) :
    parameterMaps yaml (it :: entries) = parameterMaps yaml entries := by
  rw [parameterMaps, List.filterMap_cons, h, parameterMaps]

theorem parameterMaps_cons_of_some {it : Node × Node} {m : List (Node × Node)}
    (h : yaml.asMap it.2 = some m) (entries : List (Node × Node)) :
    parameterMaps yaml (it :: entries) = parameterMap yaml m :: parameterMaps yaml entries := by
  rw [parameterMaps, List.filterMap_cons, h, List.map_cons, parameterMaps]

theorem jointsOf_cons_of_none {it : Node × Node} {name : String}
    (hname : yaml.asString it.1 = .ok name) (hm : yaml.asMap it.2 = none)
    (rest : List (Node × Node)) (config : JointConfigMap) :
    jointsOf yaml (it :: rest) config = jointsOf yaml rest config := by
  rw [jointsOf, hname, hm]
  rfl

theorem jointsOf_cons_of_some {it : Node × Node} {name : String} {m : List (Node × Node)}
    (hname : yaml.asString it.1 = .ok name) (hm : yaml.asMap it.2 = some m)
    (rest : List (Node × Node)) (config : JointConfigMap) :
    jointsOf yaml (it :: rest) config
      = paramsOf yaml m JointParams.empty >>= fun params ↦
        jointsOf yaml rest (config.emplace name params) := by
  rw [jointsOf, hname, hm]
  rfl

/-- Joints that are named apart are read one by one. -/
theorem jointsOf_eq {entries : List (Node × Node)} {names : List String}
    (hnames : entries.map (fun it ↦ yaml.asString it.1) = names.map .ok) (hnodup : names.Nodup)
    {config : JointConfigMap} (hnew : ∀ name ∈ names, name ∉ config.entries.map Prod.fst) :
    (none ∈ parameterMaps yaml entries ∧ (jointsOf yaml entries config).toOption = none) ∨
      ∃ config', jointsOf yaml entries config = .ok config' ∧
        config'.maps = config.maps ++ parameterMaps yaml entries := by
  induction entries generalizing names config with
  | nil => exact .inr ⟨config, rfl, (List.append_nil _).symm⟩
  | cons it rest ih =>
    obtain ⟨name, names, rfl⟩ : ∃ name names', names = name :: names' := by
      cases names with
      | nil => cases hnames
      | cons name names => exact ⟨name, names, rfl⟩
    obtain ⟨hname, hrest⟩ := List.cons.inj hnames
    obtain ⟨hfresh, hnodup'⟩ := List.nodup_cons.mp hnodup
    have hnew' : ∀ n ∈ names, n ∉ config.entries.map Prod.fst :=
      fun n hn ↦ hnew n (List.mem_cons_of_mem _ hn)
    cases hm : yaml.asMap it.2 with
    | none =>
      rw [parameterMaps_cons_of_none hm, jointsOf_cons_of_none hname hm]
      exact ih hrest hnodup' hnew'
    | some m =>
      rw [parameterMaps_cons_of_some hm, jointsOf_cons_of_some hname hm]
      have hfind := @find_paramsOf _ yaml m
      cases hparams : paramsOf yaml m JointParams.empty with
      | error what =>
        rw [hparams] at hfind
        exact .inl ⟨List.mem_cons.mpr (.inl hfind), rfl⟩
      | ok params =>
        rw [hparams] at hfind
        have hname' := hnew name List.mem_cons_self
        have hapart : ∀ n ∈ names, n ∉ (config.emplace name params).entries.map Prod.fst := by
          intro n hn hmem
          rcases (JointConfigMap.names_emplace hname' params).mp hmem with hold | rfl
          · exact hnew' n hn hold
          · exact hfresh hn
        have hmaps : (config.emplace name params).maps = config.maps ++ [parameterMap yaml m] := by
          rw [JointConfigMap.maps, JointConfigMap.entries_emplace hname', List.map_append, ← hfind]
          rfl
        rcases ih hrest hnodup' hapart with ⟨hnone, hends⟩ | ⟨config', hends, hconfig'⟩
        · exact .inl ⟨List.mem_cons_of_mem _ hnone, hends⟩
        · refine .inr ⟨config', hends, ?_⟩
          rw [hconfig', hmaps, List.append_assoc, List.singleton_append]

/-! ## The map by ids

The loop over the joints that were read stops at an entry without an id and at an id that is taken.
The invariant of its induction is that the ids so far are apart; it ends well exactly if those of
all entries are (`rekeyed_eq`). That condition does not depend on the order of the entries, and
neither does what is found under an id (`Keys.lookup_iff`). -/

/-- A map by ids holds these parameters, each under its id. -/
def Keys (outYaml : JointIdConfigMap) (visited : List (String × JointParams)) : Prop :=
  outYaml.map (fun e ↦ (some e.1, e.2)) = visited.map fun e ↦ (idOf e.2.find, e.2)

/-- Every entry has an id, and no two have the same. -/
def HaveIds (ids : List (Option ℤ)) : Prop := none ∉ ids ∧ ids.Nodup

/-- An entry without an id ends the loop. -/
theorem rekeyed_cons_of_none {e : String × JointParams} (h : idOf e.2.find = none)
    (rest : List (String × JointParams)) (outYaml : JointIdConfigMap) :
    (rekeyed (e :: rest) outYaml).toOption = none := by
  obtain ⟨name, params⟩ := e
  rw [rekeyed]
  cases htext : params.find "id" with
  | none => rfl
  | some text =>
    have hid : idOf params.find = (stoi text).toOption := by rw [idOf, htext, Option.bind_some]
    rw [hid] at h
    cases hstoi : stoi text with
    | error thrown =>
      dsimp only
      rw [hstoi]
      rfl
    | ok id =>
      rw [hstoi] at h
      cases h

/-- An entry with an id is added if the id is new. -/
theorem rekeyed_cons_of_some {e : String × JointParams} {id : ℤ} (h : idOf e.2.find = some id)
    (rest : List (String × JointParams)) (outYaml : JointIdConfigMap) :
    rekeyed (e :: rest) outYaml = if id ∈ outYaml.map Prod.fst then .error .returned
      else rekeyed rest (outYaml ++ [(id, e.2)]) := by
  obtain ⟨name, params⟩ := e
  obtain ⟨text, htext, hid⟩ := Option.bind_eq_some_iff.mp h
  change params.find "id" = some text at htext
  rw [rekeyed, htext]
  cases hstoi : stoi text with
  | error thrown =>
    rw [hstoi] at hid
    cases hid
  | ok id' =>
    rw [hstoi] at hid
    obtain rfl : id' = id := Option.some.inj hid
    dsimp only
    rw [hstoi]
    rfl

/-- The loop comes to its end exactly if every entry has an id that is new. -/
theorem rekeyed_eq (visited : List (String × JointParams)) (outYaml : JointIdConfigMap)
    (hnodup : (outYaml.map Prod.fst).Nodup) :
    (¬HaveIds (outYaml.map (some ·.1) ++ visited.map (idOf ·.2.find)) ∧
        (rekeyed visited outYaml).toOption = none) ∨
      ∃ added, rekeyed visited outYaml = .ok (outYaml ++ added) ∧ Keys added visited ∧
        ((outYaml ++ added).map Prod.fst).Nodup := by
  induction visited generalizing outYaml with
  | nil =>
    refine .inr ⟨[], ?_, rfl, ?_⟩
    · rw [List.append_nil, rekeyed]
    · rwa [List.append_nil]
  | cons e rest ih =>
    cases hid : idOf e.2.find with
    | none =>
      refine .inl ⟨fun hids ↦ hids.1 ?_, rekeyed_cons_of_none hid rest outYaml⟩
      exact List.mem_append_right _ (List.mem_cons.mpr (.inl hid.symm))
    | some id =>
      rw [rekeyed_cons_of_some hid]
      by_cases hmem : id ∈ outYaml.map Prod.fst
      · -- the id is taken
        rw [if_pos hmem]
        refine .inl ⟨fun hids ↦ ?_, rfl⟩
        obtain ⟨old, hold, rfl⟩ := List.mem_map.mp hmem
        exact List.disjoint_of_nodup_append hids.2 (List.mem_map.mpr ⟨old, hold, rfl⟩)
          (List.mem_cons.mpr (.inl hid.symm))
      · rw [if_neg hmem]
        have hnodup' : ((outYaml ++ [(id, e.2)]).map Prod.fst).Nodup := by
          rw [List.map_append, List.map_singleton, List.nodup_append_comm]
          exact List.nodup_cons.mpr ⟨hmem, hnodup⟩
        have hids : (outYaml ++ [(id, e.2)]).map (some ·.1) ++ rest.map (idOf ·.2.find)
            = outYaml.map (some ·.1) ++ (e :: rest).map (idOf ·.2.find) := by
          rw [List.map_append, List.append_assoc, List.map_cons, List.map_cons, hid]
          rfl
        have hrest := ih (outYaml ++ [(id, e.2)]) hnodup'
        rw [hids] at hrest
        rcases hrest with hbad | ⟨added, hends, hkeys, hapart⟩
        · exact .inl hbad
        · refine .inr ⟨(id, e.2) :: added, ?_, ?_, ?_⟩
          · rw [hends, List.append_assoc, List.singleton_append]
          · rw [Keys, List.map_cons, List.map_cons, hid, hkeys]
          · rwa [List.append_assoc, List.singleton_append] at hapart

/-- The order does not matter. -/
theorem HaveIds.perm {ids ids' : List (Option ℤ)} (h : ids.Perm ids') :
    HaveIds ids ↔ HaveIds ids' :=
  and_congr (not_congr h.mem_iff) h.nodup_iff

/-- The entries of a map by ids have ids of their own. -/
theorem Keys.haveIds {outYaml : JointIdConfigMap} {visited : List (String × JointParams)}
    (h : Keys outYaml visited) (hnodup : (outYaml.map Prod.fst).Nodup) :
    HaveIds (visited.map (idOf ·.2.find)) := by
  have hids : visited.map (idOf ·.2.find) = (outYaml.map Prod.fst).map some := by
    have hfst := congrArg (List.map Prod.fst) h
    rw [List.map_map, List.map_map] at hfst
    rw [List.map_map]
    exact hfst.symm
  rw [hids]
  refine ⟨fun hnone ↦ ?_, hnodup.map (Option.some_injective ℤ)⟩
  obtain ⟨id, -, hid⟩ := List.mem_map.mp hnone
  cases hid

/-- What is found under an id is the parameter map that has it. -/
theorem Keys.lookup_iff {outYaml : JointIdConfigMap} {visited : List (String × JointParams)}
    (h : Keys outYaml visited) (hnodup : (outYaml.map Prod.fst).Nodup) {id : ℤ}
    {f : String → Option (List Char)} :
    (outYaml.lookup id).map JointParams.find = some f
      ↔ some f ∈ visited.map (some ·.2.find) ∧ idOf f = some id := by
  rw [Option.map_eq_some_iff]
  constructor
  · rintro ⟨params, hlookup, rfl⟩
    have hmem : (some id, params) ∈ visited.map fun e ↦ (idOf e.2.find, e.2) := by
      rw [← h]
      exact List.mem_map.mpr ⟨(id, params), Dict.mem_of_lookup hlookup, rfl⟩
    obtain ⟨e, he, heq⟩ := List.mem_map.mp hmem
    obtain ⟨hid, hparams⟩ := Prod.mk.inj heq
    rw [hparams] at hid
    exact ⟨List.mem_map.mpr ⟨e, he, by rw [hparams]⟩, hid⟩
  · rintro ⟨hmem, hid⟩
    obtain ⟨e, he, heq⟩ := List.mem_map.mp hmem
    obtain rfl : e.2.find = f := Option.some.inj heq
    have hkeyed : (some id, e.2) ∈ outYaml.map fun e ↦ (some e.1, e.2) := by
      rw [h]
      exact List.mem_map.mpr ⟨e, he, by rw [hid]⟩
    obtain ⟨kept, hkept, hpair⟩ := List.mem_map.mp hkeyed
    obtain ⟨hkey, hparams⟩ := Prod.mk.inj hpair
    have hmem' : (id, e.2) ∈ outYaml := by
      rw [← Option.some.inj hkey, ← hparams]
      exact hkept
    exact ⟨e.2, Dict.lookup_of_mem hnodup hmem', rfl⟩

/-- What is merged for a servo id. -/
theorem find_mergedParams (outYaml : JointIdConfigMap) (joint : Joint) (id : ℤ) (key : String) :
    (mergedParams outYaml joint id).find key
      = (((outYaml.lookup id).map JointParams.find).bind (· key)).or
          (joint.parameters.find key) := by
  unfold mergedParams
  cases outYaml.lookup id with
  | none => rfl
  | some params => exact find_mergeJointParams params joint.parameters key

/-! ## Loading

Behind the file, each joint is looked at for a warning, and only an id that is no number can stop
that. The warnings themselves change nothing that is loaded. -/

/-- The ids of the joints can be read where there are any. -/
def UrdfIds (joints : List Joint) : Prop :=
  ∀ j ∈ joints, ∀ text, j.parameters.find "id" = some text → (stoi text).toOption.isSome

/-- How the look at a joint ends. -/
def warnEnds (j : Joint) : Except Stop Unit :=
  match j.parameters.find "id" with
  | none => .ok ()
  | some text => (stoi text).mapError Stop.thrown >>= fun _ ↦ .ok ()

/-- Whether there is a warning or not, the look at a joint ends in the same way. -/
theorem settles_warnMissing (outYaml : JointIdConfigMap) (j : Joint) :
    Settles (warnMissing outYaml j) (warnEnds j) := by
  unfold warnMissing warnEnds
  cases j.parameters.find "id" with
  | none => exact .pure ()
  | some text =>
    refine (settles_loadingValue _).bind fun id ↦ ?_
    split
    · exact .pure ()
    · exact settles_modify _

theorem settles_forM_warnMissing (outYaml : JointIdConfigMap) (joints : List Joint) :
    Settles (joints.forM (warnMissing outYaml)) (joints.forM warnEnds) := by
  induction joints with
  | nil => exact .pure ()
  | cons j joints ih => exact (settles_warnMissing outYaml j).bind fun _ ↦ ih

/-- The id of a joint has to be a number, if there is one. -/
theorem warnEnds_eq_ok_iff {j : Joint} : warnEnds j = .ok () ↔
    ∀ text, j.parameters.find "id" = some text → (stoi text).toOption.isSome := by
  unfold warnEnds
  cases j.parameters.find "id" with
  | none => exact iff_of_true rfl (by rintro _ ⟨⟩)
  | some text =>
    dsimp only
    cases hstoi : stoi text with
    | error e =>
      refine iff_of_false (by rintro ⟨⟩) fun h ↦ ?_
      have htext := h text rfl
      rw [hstoi] at htext
      cases htext
    | ok id =>
      refine iff_of_true rfl ?_
      rintro _ ⟨⟩
      rw [hstoi]
      rfl

theorem forM_warnEnds_eq_ok_iff {joints : List Joint} :
    joints.forM warnEnds = .ok () ↔ UrdfIds joints := by
  induction joints with
  | nil => exact iff_of_true rfl (by rintro _ ⟨⟩)
  | cons j joints ih =>
    rw [UrdfIds, List.forall_mem_cons, ← warnEnds_eq_ok_iff]
    change (warnEnds j >>= fun _ ↦ joints.forM warnEnds) = .ok () ↔ _ ∧ UrdfIds joints
    rw [← ih]
    cases warnEnds j with
    | error e => exact iff_of_false (by rintro ⟨⟩) fun h ↦ by cases h.1
    | ok u => exact (and_iff_right rfl).symm

/-- `load_yaml_config_and_warn_` returns `SUCCESS` with this map. -/
def Loads (yaml : YamlCpp Node) (order : HashOrder) (disk : String → Found Node)
    (info : HardwareInfo) (outYaml : JointIdConfigMap) : Prop :=
  Settles (loadYamlConfigAndWarn yaml order disk info) (.ok outYaml)

/-- How the call ends behind the file. -/
def loadEnds (order : HashOrder) (joints : List Joint) :
    Option JointConfigMap → Except Stop JointIdConfigMap
  | none => .error .returned
  | some config => do
    let outYaml ← rekeyed (order.visit config.entries) []
    joints.forM warnEnds
    return outYaml

theorem loadEnds_eq_ok_iff {order : HashOrder} {joints : List Joint}
    {loaded : Option JointConfigMap} {outYaml : JointIdConfigMap} :
    loadEnds order joints loaded = .ok outYaml ↔ ∃ config, loaded = some config ∧
      rekeyed (order.visit config.entries) [] = .ok outYaml ∧ UrdfIds joints := by
  cases loaded with
  | none => exact iff_of_false (by rintro ⟨⟩) (by rintro ⟨_, ⟨⟩, _⟩)
  | some config =>
    rw [loadEnds, ← forM_warnEnds_eq_ok_iff]
    constructor
    · intro h
      cases hkeys : rekeyed (order.visit config.entries) [] with
      | error stop =>
        rw [hkeys] at h
        cases h
      | ok outYaml' =>
        rw [hkeys] at h
        cases hjoints : joints.forM warnEnds with
        | error stop =>
          rw [hjoints] at h
          cases h
        | ok u =>
          rw [hjoints] at h
          obtain rfl : outYaml' = outYaml := Except.ok.inj h
          exact ⟨config, rfl, hkeys, rfl⟩
    · rintro ⟨_, ⟨⟩, hkeys, hjoints⟩
      rw [hkeys, hjoints]
      rfl

section Load

variable {order : HashOrder} {disk : String → Found Node} {info : HardwareInfo} {path : List Char}
  {entries : List (Node × Node)} {outYaml : JointIdConfigMap}

theorem loads_iff (hpath : info.hardwareParameters.find "joint_config_file" = some path)
    (hne : path ≠ []) : Loads yaml order disk info outYaml ↔ ∃ config,
      loadedFrom yaml (disk (String.ofList path)) = some config ∧
        rekeyed (order.visit config.entries) [] = .ok outYaml ∧ UrdfIds info.joints := by
  have hsettles : Settles (loadYamlConfigAndWarn yaml order disk info)
      (loadEnds order info.joints (loadedFrom yaml (disk (String.ofList path)))) := by
    unfold loadYamlConfigAndWarn
    rw [hpath]
    dsimp only
    rw [if_neg hne]
    refine (settles_loadJointConfig _ _).bind_ok ?_
    cases loadedFrom yaml (disk (String.ofList path)) with
    | none => exact .throw _
    | some config =>
      exact (settles_rekey _ _).bind fun outYaml ↦
        (settles_forM_warnMissing _ _).bind fun _ ↦ .pure outYaml
  rw [← loadEnds_eq_ok_iff]
  constructor
  · exact fun h ↦ hsettles.unique h ⟨[], [], []⟩
  · intro h
    rw [Loads, ← h]
    exact hsettles

/-- Joints that are named apart are loaded as their parameter maps. -/
theorem loadedFrom_of_holds {found : Found Node} (h : HoldsJoints yaml found entries)
    (hnames : NamedApart yaml entries) :
    (none ∈ parameterMaps yaml entries ∧ loadedFrom yaml found = none) ∨
      ∃ config, loadedFrom yaml found = some config ∧
        config.maps = parameterMaps yaml entries := by
  obtain ⟨root, joints, rfl, hchild, hentries⟩ := h
  obtain ⟨names, heq, hnodup⟩ := hnames
  have hloaded : loadedFrom yaml (.file (.ok root))
      = (jointsOf yaml entries JointConfigMap.empty).toOption := by
    have hconfig : configOf yaml (.ok root)
        = jointsOf yaml entries JointConfigMap.empty >>= fun config ↦ .ok (some config) := by
      change (yaml.child root "joints" >>= fun joints ↦
        configBelow yaml (joints.bind yaml.asMap)) = _
      rw [hchild]
      change configBelow yaml (yaml.asMap joints) = _
      rw [hentries]
      rfl
    rw [loadedFrom, hconfig]
    cases jointsOf yaml entries JointConfigMap.empty <;> rfl
  have hnew : ∀ name ∈ names, name ∉ JointConfigMap.empty.entries.map Prod.fst := by
    rintro name - ⟨⟩
  rcases jointsOf_eq heq hnodup hnew with hbad | ⟨config, hends, hmaps⟩
  · exact .inl ⟨hbad.1, hloaded.trans hbad.2⟩
  · refine .inr ⟨config, hloaded.trans ?_, hmaps⟩
    rw [hends]
    rfl

/-- The ids of shuffled parameter maps. -/
theorem perm_ids {visited : List (String × JointParams)}
    (h : (visited.map (some ·.2.find)).Perm (parameterMaps yaml entries)) :
    (visited.map (idOf ·.2.find)).Perm (entryIds yaml entries) := by
  have hperm := h.map fun params ↦ params.bind idOf
  rw [List.map_map] at hperm
  exact hperm

variable (hpath : info.hardwareParameters.find "joint_config_file" = some path) (hne : path ≠ [])
  (hfile : HoldsJoints yaml (disk (String.ofList path)) entries) (hnames : NamedApart yaml entries)

include hpath hne hfile hnames

/-- The map that is loaded has the parameter maps of the file, in the order of the hash table. -/
theorem keys_of_loads (h : Loads yaml order disk info outYaml) :
    ∃ visited, Keys outYaml visited ∧ (outYaml.map Prod.fst).Nodup ∧
      (visited.map (some ·.2.find)).Perm (parameterMaps yaml entries) := by
  obtain ⟨config, hloaded, hkeys, -⟩ := (loads_iff hpath hne).mp h
  rcases loadedFrom_of_holds hfile hnames with ⟨-, hnone⟩ | ⟨config', hconfig, hmaps⟩
  · rw [hloaded] at hnone
    cases hnone
  · obtain rfl : config = config' := Option.some.inj (hloaded.symm.trans hconfig)
    rcases rekeyed_eq (order.visit config.entries) [] List.nodup_nil with
      ⟨-, hbad⟩ | ⟨added, hadded, hkeyed, hnodup⟩
    · rw [hkeys] at hbad
      cases hbad
    · obtain rfl : outYaml = added := Except.ok.inj (hkeys.symm.trans hadded)
      refine ⟨_, hkeyed, hnodup, ?_⟩
      rw [← hmaps]
      exact (order.perm config.entries).map _

/-- What is found under an id is the parameter map that has it. -/
theorem lookup_iff_of_loads (h : Loads yaml order disk info outYaml) {id : ℤ}
    {f : String → Option (List Char)} :
    (outYaml.lookup id).map JointParams.find = some f
      ↔ some f ∈ parameterMaps yaml entries ∧ idOf f = some id := by
  obtain ⟨visited, hkeyed, hnodup, hperm⟩ := keys_of_loads hpath hne hfile hnames h
  rw [hkeyed.lookup_iff hnodup, hperm.mem_iff]

/-- **A file is accepted exactly if every entry has an id of its own**, and the ids of the joints
can be read. -/
theorem accepted_iff : (∃ outYaml, Loads yaml order disk info outYaml)
    ↔ HaveIds (entryIds yaml entries) ∧ UrdfIds info.joints := by
  constructor
  · rintro ⟨outYaml, h⟩
    obtain ⟨visited, hkeyed, hnodup, hperm⟩ := keys_of_loads hpath hne hfile hnames h
    obtain ⟨config, -, -, hurdf⟩ := (loads_iff hpath hne).mp h
    exact ⟨(HaveIds.perm (perm_ids hperm)).mp (hkeyed.haveIds hnodup), hurdf⟩
  · rintro ⟨hids, hurdf⟩
    rcases loadedFrom_of_holds hfile hnames with ⟨hnone, -⟩ | ⟨config, hconfig, hmaps⟩
    · exact absurd (List.mem_map.mpr ⟨none, hnone, rfl⟩) hids.1
    · have hperm : ((order.visit config.entries).map (some ·.2.find)).Perm
          (parameterMaps yaml entries) := by
        rw [← hmaps]
        exact (order.perm config.entries).map _
      rcases rekeyed_eq (order.visit config.entries) [] List.nodup_nil with
        ⟨hbad, -⟩ | ⟨added, hadded, -⟩
      · exact absurd ((HaveIds.perm (perm_ids hperm)).mpr hids) hbad
      · exact ⟨_, (loads_iff hpath hne).mpr ⟨config, hconfig, hadded, hurdf⟩⟩

/-- The value that is used for a parameter. -/
theorem find_mergedParams_of_loads (h : Loads yaml order disk info outYaml) (joint : Joint) (id : ℤ)
    (key : String) :
    (∀ params, some params ∈ parameterMaps yaml entries → idOf params = some id →
        (mergedParams outYaml joint id).find key = (params key).or (joint.parameters.find key)) ∧
      ((∀ params, some params ∈ parameterMaps yaml entries → idOf params ≠ some id) →
        (mergedParams outYaml joint id).find key = joint.parameters.find key) := by
  refine ⟨fun params hmem hid ↦ ?_, fun hother ↦ ?_⟩
  · have hlookup := (lookup_iff_of_loads hpath hne hfile hnames h).mpr ⟨hmem, hid⟩
    rw [find_mergedParams, hlookup, Option.bind_some]
  · have hlookup : (outYaml.lookup id).map JointParams.find = none := by
      rw [Option.eq_none_iff_forall_ne_some]
      intro params hparams
      obtain ⟨hmem, hid⟩ := (lookup_iff_of_loads hpath hne hfile hnames h).mp hparams
      exact hother params hmem hid
    rw [find_mergedParams, hlookup, Option.bind_none, Option.none_or]

end Load

/-! ## Configuring

What a joint is sent depends on what is found in its merged parameters, so two maps in which the
same is found under every id lead to the same steps. -/

/-- The steps for a servo look parameters up, and nothing else. -/
theorem servoSteps_congr {merged merged' : JointParams}
    (h : ∀ key, merged.find key = merged'.find key)
    (i : ℕ) (id : UInt8) (joint : Joint) :
    servoSteps i id joint merged = servoSteps i id joint merged' := by
  have hsteps : parameterSteps i id merged = parameterSteps i id merged' := by
    funext p
    rw [parameterSteps, parameterSteps, h]
  rw [servoSteps, servoSteps, hsteps]

/-- So do the steps for the offset. -/
theorem offsetSteps_congr {merged merged' : JointParams}
    (h : ∀ key, merged.find key = merged'.find key) (joint : Joint) :
    offsetSteps joint merged = offsetSteps joint merged' := by
  rw [offsetSteps, offsetSteps, h]

/-- And so do all steps for a joint. -/
theorem jointSteps_congr {out₁ out₂ : JointIdConfigMap}
    (h : ∀ id : ℤ, (out₁.lookup id).map JointParams.find = (out₂.lookup id).map JointParams.find)
    (i : ℕ) (joint : Joint) : jointSteps out₁ i joint = jointSteps out₂ i joint := by
  have hmerged (id : ℤ) (key : String) :
      (mergedParams out₁ joint id).find key = (mergedParams out₂ joint id).find key := by
    rw [find_mergedParams, find_mergedParams, h]
  unfold jointSteps
  cases joint.parameters.find "id" with
  | none => rfl
  | some urdfId =>
    dsimp only
    cases stoi urdfId with
    | error e => rfl
    | ok id =>
      dsimp only
      rw [servoSteps_congr (hmerged id), offsetSteps_congr (hmerged id)]

/-- Maps in which the same parameters are found configure the joints in the same way. -/
theorem configureJoints_congr {out₁ out₂ : JointIdConfigMap}
    (h : ∀ id : ℤ, (out₁.lookup id).map JointParams.find = (out₂.lookup id).map JointParams.find)
    (bus : BusAnswers) (joints : List Joint) :
    configureJoints bus out₁ joints = configureJoints bus out₂ joints := by
  have hsteps (i : ℕ) : stepsFrom out₁ i joints = stepsFrom out₂ i joints := by
    induction joints generalizing i with
    | nil => rfl
    | cons joint joints ih => rw [stepsFrom, stepsFrom, jointSteps_congr h, ih]
  rw [configureJoints, configureJoints, configureFrom_eq, configureFrom_eq, hsteps]

/-! ## What is written

The writes of a joint that are no controls are for parameters, each with the bytes of the text that
is found under the overlay. That holds of every run, since a run is a front part of the steps
(`cases_of_mem_stepsFrom`); that none is missing holds of the runs that come to their end. -/

/-- The register of each parameter gets the bytes of its text in `value joint id`, for the servo id
of the joint, and no others. It does get them when the function returns `SUCCESS`, and that is what
it does on a bus that acknowledges every write if each joint has an id and all texts can be sent. -/
structure WritesValues (bus : BusAnswers) (joints : List Joint)
    (value : Joint → ℤ → String → Option (List Char))
    (result : EStateM.Result Stop ConfigureState Unit) : Prop where
  written : ∀ entry ∈ (finalState result).log, ∀ p ∈ parameters, entry.1.address = p.address →
    ∃ joint urdfId id text, joints[entry.1.joint]? = some joint ∧
      joint.parameters.find "id" = some urdfId ∧ stoi urdfId = .ok id ∧
      entry.1.id = UInt8.ofInt id ∧ value joint id p.name = some text ∧
      (stoi text >>= p.encoding.encode) = .ok entry.1.data
  complete : ∀ st, result = .ok () st → ∀ (i : ℕ) joint, joints[i]? = some joint →
    ∃ urdfId id, joint.parameters.find "id" = some urdfId ∧ stoi urdfId = .ok id ∧
      ∀ p ∈ parameters, ∀ text, value joint id p.name = some text →
        ∃ data, (stoi text >>= p.encoding.encode) = .ok data ∧
          (⟨i, UInt8.ofInt id, p.address, data⟩, true) ∈ st.log
  succeeds : (∀ k, bus.ok k = true) →
    (∀ joint ∈ joints, ∃ urdfId id, joint.parameters.find "id" = some urdfId ∧
      stoi urdfId = .ok id ∧ ∀ p ∈ parameters, ∀ text, value joint id p.name = some text →
        ∃ data, (stoi text >>= p.encoding.encode) = .ok data) → ∃ st, result = .ok () st

/-- A joint is readable if it has an id and its texts can be sent. -/
theorem readable_of_data {outYaml : JointIdConfigMap} {joint : Joint}
    (h : ∃ urdfId id, joint.parameters.find "id" = some urdfId ∧ stoi urdfId = .ok id ∧
      ∀ p ∈ parameters, ∀ text, (mergedParams outYaml joint id).find p.name = some text →
        ∃ data, (stoi text >>= p.encoding.encode) = .ok data) : Readable outYaml joint := by
  obtain ⟨urdfId, id, hfind, hid, hdata⟩ := h
  exact ⟨urdfId, id, hfind, hid, trivial,
    fun p hp text htext ↦ (exists_data_iff hp).mp (hdata p hp text htext)⟩

/-- **What is looked up under the overlay is written.** -/
theorem writesValues_mergedParams (bus : BusAnswers) (outYaml : JointIdConfigMap)
    (joints : List Joint) :
    WritesValues bus joints (fun joint id key ↦ (mergedParams outYaml joint id).find key)
      (configureJoints bus outYaml joints) := by
  have hran := ran_runSteps bus (stepsFrom outYaml 0 joints)
    ⟨List.replicate joints.length 0, [], [], []⟩
  rw [configureJoints, configureFrom_eq]
  generalize runSteps bus (stepsFrom outYaml 0 joints) _ = result at hran
  have hlog : (finalState result).log
      = Script.play bus.ok (commands (stepsFrom outYaml 0 joints)) [] := by
    rcases hran with ⟨-, -, hlog, -⟩ | ⟨-, -, hlog⟩ | ⟨-, hlog⟩
    all_goals exact hlog
  refine ⟨fun entry hentry p hp haddress ↦ ?_, ?_, fun hok hall ↦ ?_⟩
  · have hsuffix := Script.map_fst_play_suffix bus.ok (commands (stepsFrom outYaml 0 joints)) []
    rw [← hlog, List.map_nil, List.append_nil] at hsuffix
    have hmem := List.mem_reverse.mp (hsuffix.mem (List.mem_map_of_mem hentry))
    obtain ⟨k, joint, urdfId, id, hk, hfind, hid, hjoint, hcontrol | hwrite⟩ :=
      cases_of_mem_stepsFrom hmem
    · rw [haddress] at hcontrol
      exact absurd hcontrol (not_isControl_of_mem hp)
    · obtain ⟨q, hq, text, data, htext, hdata, hw⟩ := hwrite
      rw [Nat.zero_add] at hjoint hw
      rw [hw] at haddress
      obtain rfl := eq_of_address_eq hq hp haddress
      refine ⟨joint, urdfId, id, text, by rw [hjoint, hk], hfind, hid, by rw [hw], htext, ?_⟩
      rw [hw]
      exact hdata
  · rintro st rfl i joint hi
    rcases hran with ⟨hcompletes, hend, -, -⟩
    -- behind a success, every joint is readable and every command has been played
    have hread := (readable_of_ending hend).2
    obtain ⟨urdfId, id, hfind, hid, -, hparams⟩ := hread joint (List.mem_of_getElem? hi)
    refine ⟨urdfId, id, hfind, hid, fun p hp text htext ↦ ?_⟩
    obtain ⟨data, hdata⟩ := (exists_data_iff hp).mpr (hparams p hp text htext)
    have hwrite := (jointsRan_of_readable 0 hread).writes i joint urdfId id hi hfind hid
      ⟨0 + i, UInt8.ofInt id, p.address, data⟩ ⟨p, hp, text, data, htext, hdata, rfl⟩
    rw [Nat.zero_add] at hwrite
    refine ⟨data, hdata, ?_⟩
    have hst : st.log = Script.play bus.ok (commands (stepsFrom outYaml 0 joints)) [] := hlog
    rw [hst, Script.play_of_completes hcompletes, List.append_nil, List.mem_reverse]
    exact List.mem_map_of_mem hwrite
  · have hread : ∀ joint ∈ joints, Readable outYaml joint :=
      fun joint hjoint ↦ readable_of_data (hall joint hjoint)
    have hend := (jointsRan_of_readable 0 hread).ending_eq
    rcases hran with ⟨-, -, -, -⟩ | ⟨-, hend', -⟩ | ⟨hfails, -⟩
    · exact ⟨_, rfl⟩
    · rw [hend] at hend'
      cases hend'
    · exact absurd (Script.completes_of_forall hok) hfails.not_completes

/-- **The overlay goes by servo ids.** Names and order of the entries change neither what is
accepted nor what `configure_joints_` does. Entries without an id, or with the same, are not
accepted. The value of a parameter is that of the entry with the id of the joint, and otherwise that
of the joint, and its bytes are what `configure_joints_` writes to the register. -/
theorem overlay_by_id (yaml : YamlCpp Node) {info : HardwareInfo} {path : List Char}
    (hpath : info.hardwareParameters.find "joint_config_file" = some path) (hne : path ≠ []) :
    (∀ (order₁ order₂ : HashOrder) (disk₁ disk₂ : String → Found Node)
        (entries₁ entries₂ : List (Node × Node)),
        HoldsJoints yaml (disk₁ (String.ofList path)) entries₁ →
        HoldsJoints yaml (disk₂ (String.ofList path)) entries₂ →
        NamedApart yaml entries₁ → NamedApart yaml entries₂ → SameMaps yaml entries₁ entries₂ →
        ((∃ outYaml, Loads yaml order₁ disk₁ info outYaml)
            ↔ ∃ outYaml, Loads yaml order₂ disk₂ info outYaml) ∧
          ∀ out₁ out₂, Loads yaml order₁ disk₁ info out₁ → Loads yaml order₂ disk₂ info out₂ →
            ∀ bus, configureJoints bus out₁ info.joints = configureJoints bus out₂ info.joints) ∧
      ∀ (order : HashOrder) (disk : String → Found Node) (entries : List (Node × Node)),
        HoldsJoints yaml (disk (String.ofList path)) entries → NamedApart yaml entries →
        (¬HaveIds (entryIds yaml entries) → ¬∃ outYaml, Loads yaml order disk info outYaml) ∧
          ∀ outYaml, Loads yaml order disk info outYaml →
            ∃ value : Joint → ℤ → String → Option (List Char),
              (∀ joint id key,
                (∀ params, some params ∈ parameterMaps yaml entries → idOf params = some id →
                    value joint id key = (params key).or (joint.parameters.find key)) ∧
                  ((∀ params, some params ∈ parameterMaps yaml entries → idOf params ≠ some id) →
                    value joint id key = joint.parameters.find key)) ∧
              ∀ bus, WritesValues bus info.joints value
                (configureJoints bus outYaml info.joints) := by
  constructor
  · intro order₁ order₂ disk₁ disk₂ entries₁ entries₂ hfile₁ hfile₂ hnames₁ hnames₂ hsame
    constructor
    · have hids : (entryIds yaml entries₁).Perm (entryIds yaml entries₂) := List.Perm.map _ hsame
      rw [accepted_iff hpath hne hfile₁ hnames₁, accepted_iff hpath hne hfile₂ hnames₂,
        HaveIds.perm hids]
    · intro out₁ out₂ h₁ h₂ bus
      apply configureJoints_congr
      intro id
      apply Option.ext
      intro params
      rw [lookup_iff_of_loads hpath hne hfile₁ hnames₁ h₁,
        lookup_iff_of_loads hpath hne hfile₂ hnames₂ h₂, List.Perm.mem_iff hsame]
  · intro order disk entries hfile hnames
    constructor
    · intro hbad haccepted
      exact hbad ((accepted_iff hpath hne hfile hnames).mp haccepted).1
    · intro outYaml h
      exact ⟨fun joint id key ↦ (mergedParams outYaml joint id).find key,
        find_mergedParams_of_loads hpath hne hfile hnames h,
        fun bus ↦ writesValues_mergedParams bus outYaml info.joints⟩

/-- Nodes of scalars and maps. -/
inductive YamlNode
  | scalar (text : String)
  | map (pairs : List (YamlNode × YamlNode))

def YamlNode.pairs : YamlNode → Option (List (YamlNode × YamlNode))
  | .scalar _ => none
  | .map pairs => some pairs

def YamlNode.text : YamlNode → Option String
  | .scalar text => some text
  | .map _ => none

/-- The library on these nodes. -/
def YamlNode.library : YamlCpp YamlNode where
  child node key :=
    match node.pairs with
    | none => .error "operator[] call on a scalar"
    | some pairs => .ok ((pairs.find? fun p ↦ p.1.text = some key).map Prod.snd)
  asMap := YamlNode.pairs
  asString node :=
    match node.text with
    | none => .error "bad conversion"
    | some text => .ok text
  asScalar node := node.text.map String.toList

/-- Below `joints:`, a shoulder with id 1 and an elbow with id 2. -/
def armEntries : List (YamlNode × YamlNode) :=
  [(.scalar "shoulder",
      .map [(.scalar "id", .scalar "1"), (.scalar "p_coefficient", .scalar "16")]),
    (.scalar "elbow", .map [(.scalar "id", .scalar "2")])]

/-- The same parameters under other names, the other way round. -/
def relabelledEntries : List (YamlNode × YamlNode) :=
  [(.scalar "joint_2", .map [(.scalar "id", .scalar "2")]),
    (.scalar "joint_1",
      .map [(.scalar "id", .scalar "1"), (.scalar "p_coefficient", .scalar "16")])]

/-- A disk with one file. -/
def diskOf (entries : List (YamlNode × YamlNode)) (path : String) : Found YamlNode :=
  if path = "joints.yaml" then .file (.ok (.map [(.scalar "joints", .map entries)])) else .missing

/-- A joint with id 1 and another coefficient. -/
def shoulderPan : Joint :=
  ⟨"shoulder_pan", ⟨[("id", ['1']), ("p_coefficient", ['8'])], by decide⟩, ["position"]⟩

def armInfo : HardwareInfo where
  hardwareParameters := ⟨[("joint_config_file", "joints.yaml".toList)], List.nodup_singleton _⟩
  joints := [shoulderPan]

/-- Gone through as it is. -/
def plainOrder : HashOrder := ⟨id, fun _ ↦ List.Perm.refl _⟩

/-- The parameters of servo 1. -/
def shoulderParams : String → Option (List Char) := lastScalar YamlNode.library
  [(.scalar "id", .scalar "1"), (.scalar "p_coefficient", .scalar "16")]

/-- Relabelled, the file is still accepted, and its coefficient is still what servo 1 is sent. -/
theorem overlay_by_id_relabelled :
    ((∃ outYaml, Loads YamlNode.library plainOrder (diskOf armEntries) armInfo outYaml)
        ↔ ∃ outYaml, Loads YamlNode.library plainOrder (diskOf relabelledEntries) armInfo outYaml) ∧
      ∀ outYaml, Loads YamlNode.library plainOrder (diskOf relabelledEntries) armInfo outYaml →
        ∃ st, configureJoints acknowledging outYaml armInfo.joints = .ok () st ∧
          (⟨0, 1, smsStsPCoef, [16]⟩, true) ∈ st.log := by
  have hpath : armInfo.hardwareParameters.find "joint_config_file" = some "joints.yaml".toList := by
    decide
  have hfile (entries : List (YamlNode × YamlNode)) :
      HoldsJoints YamlNode.library (diskOf entries (String.ofList "joints.yaml".toList)) entries :=
    ⟨.map [(.scalar "joints", .map entries)], .map entries, rfl, rfl, rfl⟩
  have hnames : NamedApart YamlNode.library relabelledEntries :=
    ⟨["joint_2", "joint_1"], rfl, by decide⟩
  have hsame : SameMaps YamlNode.library armEntries relabelledEntries := List.Perm.swap _ _ _
  obtain ⟨hlabels, hoverlay⟩ := overlay_by_id YamlNode.library hpath (by decide)
  refine ⟨(hlabels plainOrder plainOrder _ _ _ _ (hfile armEntries) (hfile relabelledEntries)
    ⟨["shoulder", "elbow"], rfl, by decide⟩ hnames hsame).1, fun outYaml h ↦ ?_⟩
  obtain ⟨value, hvalue, hwrites⟩ :=
    (hoverlay plainOrder _ _ (hfile relabelledEntries) hnames).2 outYaml h
  have hmem : some shoulderParams ∈ parameterMaps YamlNode.library relabelledEntries :=
    List.mem_cons_of_mem _ List.mem_cons_self
  have hshoulder : ∀ p ∈ parameters, value shoulderPan 1 p.name
      = if p.name = "p_coefficient" then some ['1', '6'] else none := by
    have hparams : ∀ p ∈ parameters,
        (shoulderParams p.name).or (shoulderPan.parameters.find p.name)
          = if p.name = "p_coefficient" then some ['1', '6'] else none := by decide
    exact fun p hp ↦ ((hvalue shoulderPan 1 p.name).1 _ hmem rfl).trans (hparams p hp)
  have hcoefficient : (stoi ['1', '6'] >>= Encoding.byte.encode) = .ok [16] := by rfl
  obtain ⟨st, hst⟩ := (hwrites acknowledging).succeeds ok_acknowledging (by
    refine List.forall_mem_singleton.mpr ⟨['1'], 1, rfl, rfl, fun p hp text htext ↦ ?_⟩
    rw [hshoulder p hp] at htext
    split_ifs at htext with hname
    have hbyte : ∀ p ∈ parameters, p.name = "p_coefficient" → p.encoding = .byte := by decide
    rw [← Option.some.inj htext, hbyte p hp hname]
    exact ⟨_, hcoefficient⟩)
  refine ⟨st, hst, ?_⟩
  obtain ⟨urdfId, id, hfind, hid, hall⟩ := (hwrites acknowledging).complete st hst 0 shoulderPan rfl
  obtain rfl : ['1'] = urdfId := Option.some.inj hfind
  obtain rfl : 1 = id := Except.ok.inj hid
  have hp : (⟨"p_coefficient", smsStsPCoef, .byte⟩ : Parameter) ∈ parameters := by decide
  obtain ⟨data, hdata, hlog⟩ := hall _ hp _ (hshoulder _ hp)
  obtain rfl : [16] = data := Except.ok.inj (hcoefficient.symm.trans hdata)
  exact hlog

end VzletUr3e.Feetech
