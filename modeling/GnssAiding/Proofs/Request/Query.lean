/-
Queries can be taken apart again.

What a request says is a `Setting` for some of the keys of a query. A parameter begins with the
name of its key, and no name holds an equals sign, so the parameter tells the key and the
setting (`Key.parameter_inj`). Neither the token nor any setting holds a semicolon, so cutting
a query at its semicolons gives the token's parameter and the others one by one
(`split_compose`), and one query is that of one token and one setting for each key
(`compose_inj`).
-/
import GnssAiding.Request.Query
import Mathlib.Data.List.Nodup
import Mathlib.Data.List.TakeWhile

namespace GnssAiding

namespace Query

/-- The parts of a query between its semicolons. -/
def split (query : String) : List String := (query.split ';').toList.map String.Slice.copy

/-- What a query has parameters for. -/
inductive Key
  | gnss
  | dataTypes
  | almanacs
  | latitude
  | longitude
  | altitude
  | accuracy
  | filterOnPosition
  | latency
  | timeAccuracy
  | format
  | weeks
  | days
  | resolution
deriving DecidableEq, Repr

def Key.name : Key → String
  | .gnss => "gnss"
  | .dataTypes => "datatype"
  | .almanacs => "alm"
  | .latitude => "lat"
  | .longitude => "lon"
  | .altitude => "alt"
  | .accuracy => "pacc"
  | .filterOnPosition => "filteronpos"
  | .latency => "latency"
  | .timeAccuracy => "tacc"
  | .format => "format"
  | .weeks => "period"
  | .days => "days"
  | .resolution => "resolution"

/-- All keys. -/
def Key.all : List Key :=
  [.gnss, .dataTypes, .almanacs, .latitude, .longitude, .altitude, .accuracy, .filterOnPosition,
    .latency, .timeAccuracy, .format, .weeks, .days, .resolution]

/-- What is said under a key: its name only, or a value. -/
inductive Setting
  | flag
  | value (text : String)
deriving DecidableEq, Repr

def Key.parameter (k : Key) : Setting → String
  | .flag => k.name
  | .value text => k.name ++ "=" ++ text

/-- The parameters of the keys that are set, in the order of the keys. -/
def parameters (keys : List Key) (setting? : Key → Option Setting) : List String :=
  keys.filterMap fun k => (setting? k).map k.parameter

/-- A list as a setting; an empty list is none. -/
def listSetting? (names : List String) : Option Setting :=
  if names = [] then none else some (.value (",".intercalate names))

@[simp]
theorem parameters_nil (f : Key → Option Setting) : parameters [] f = [] := rfl

theorem parameters_cons (k : Key) (keys : List Key) (f : Key → Option Setting) :
    parameters (k :: keys) f = ((f k).map k.parameter).toList ++ parameters keys f := by
  simp only [parameters, List.filterMap_eq_flatMap_toList, List.flatMap_cons]

theorem parameters_ite (k : Key) (s : Setting) (b : Bool) :
    ((if b then some s else none).map k.parameter).toList = if b then [k.parameter s] else [] := by
  cases b <;> rfl

theorem ite_setting_inj {s : Setting} {b b' : Bool}
    (h : (if b then some s else none) = if b' then some s else none) : b = b' := by
  cases b <;> cases b' <;> first | rfl | cases h

/-! ## Keys -/

theorem Key.notMem_name {c : Char} (hc : c = '=' ∨ c = ';') (k : Key) : c ∉ k.name.toList := by
  rcases hc with rfl | rfl <;> cases k <;> decide

theorem Key.name_inj {k k' : Key} (h : k.name = k'.name) : k = k' := by
  have hmem : ∀ k : Key, k ∈ all := fun k => by cases k <;> decide
  have hnodup : (all.map name).Nodup := by decide
  exact List.inj_on_of_nodup_map hnodup (hmem k) (hmem k') h

/-- The name of a parameter reaches up to its first equals sign. -/
theorem Key.takeWhile_parameter (k : Key) (s : Setting) :
    (k.parameter s).toList.takeWhile (· ≠ '=') = k.name.toList := by
  have hname : ∀ c ∈ k.name.toList, decide (c ≠ '=') = true := fun c hc =>
    decide_eq_true fun h => k.notMem_name (.inl h) hc
  cases s with
  | flag => exact List.takeWhile_eq_self_iff.2 hname
  | value text =>
    rw [parameter, String.toList_append, String.toList_append, List.append_assoc,
      List.takeWhile_append_of_pos hname]
    exact List.append_nil _

/-- A parameter tells its key and what is said under it. -/
theorem Key.parameter_inj {k k' : Key} {s s' : Setting} (h : k.parameter s = k'.parameter s') :
    k = k' ∧ s = s' := by
  have hname : k.name = k'.name := by
    rw [← String.toList_inj, ← takeWhile_parameter k s, h, takeWhile_parameter k' s']
  obtain rfl := name_inj hname
  refine ⟨rfl, ?_⟩
  have hlist := congrArg String.toList h
  cases s with
  | flag =>
    cases s' with
    | flag => rfl
    | value text => simp [parameter] at hlist
  | value text =>
    cases s' with
    | flag => simp [parameter] at hlist
    | value text' =>
      simp only [parameter, String.toList_append, List.append_assoc, List.append_cancel_left_eq,
        String.toList_inj] at hlist
      rw [hlist]

/-- Of two queries with the same parameters every key says the same. -/
theorem setting?_eq_of_parameters_eq {keys : List Key} {f g : Key → Option Setting}
    (h : parameters keys f = parameters keys g) {k : Key} (hk : k ∈ keys) : f k = g k := by
  -- What is said under a key is what its parameter, one of the list, tells.
  have hmem : ∀ f : Key → Option Setting, ∀ s,
      f k = some s ↔ k.parameter s ∈ parameters keys f := by
    intro f s
    constructor
    · intro hs
      exact List.mem_filterMap.2 ⟨k, hk, by rw [hs, Option.map_some]⟩
    · intro hs
      obtain ⟨k', -, hs'⟩ := List.mem_filterMap.1 hs
      obtain ⟨s', hset, hparameter⟩ := Option.map_eq_some_iff.1 hs'
      obtain ⟨rfl, rfl⟩ := Key.parameter_inj hparameter
      exact hset
  exact Option.ext fun s => by rw [hmem f, hmem g, h]

/-! ## Cutting a query -/

/-- Nothing that is said holds a semicolon. -/
def Plain (setting? : Key → Option Setting) : Prop :=
  ∀ k text, setting? k = some (.value text) → ';' ∉ text.toList

theorem notMem_of_mem_parameters {keys : List Key} {setting? : Key → Option Setting}
    (h : Plain setting?) : ∀ p ∈ parameters keys setting?, ';' ∉ p.toList := by
  intro p hp
  obtain ⟨k, -, hs⟩ := List.mem_filterMap.1 hp
  obtain ⟨s, hset, rfl⟩ := Option.map_eq_some_iff.1 hs
  have hname := k.notMem_name (.inr (rfl : ';' = ';'))
  cases s with
  | flag => exact hname
  | value text =>
    simp only [Key.parameter, String.toList_append, List.mem_append, not_or]
    exact ⟨⟨hname, by decide⟩, h k text hset⟩

theorem notMem_of_ambiguous {token : String} (h : ambiguous token = false) :
    ';' ∉ token.toList := by
  intro hmem
  have hall := (Bool.or_eq_false_iff.1 h).2
  exact absurd (List.any_eq_false.1 hall ';' hmem) (by decide)

variable {token : String} {keys : List Key} {f g : Key → Option Setting}

/-- A query with an accepted token is cut into the parameter of the token and the others. -/
theorem split_compose (keys : List Key) (ht : ambiguous token = false) (h : Plain f) :
    ∃ q, compose token (parameters keys f) = .ok q ∧
      split q = ("token=" ++ token) :: parameters keys f := by
  refine ⟨_, if_neg (Bool.eq_false_iff.1 ht), ?_⟩
  have hplain : ∀ p ∈ ("token=" ++ token) :: parameters keys f, ';' ∉ p.toList := by
    intro p hp
    rcases List.mem_cons.1 hp with rfl | hp
    · rw [String.toList_append, List.mem_append, not_or]
      exact ⟨by decide, notMem_of_ambiguous ht⟩
    · exact notMem_of_mem_parameters h p hp
  exact String.toList_split_intercalate hplain

theorem ambiguous_of_compose_eq_ok {q : String} {ps : List String}
    (h : compose token ps = .ok q) : ambiguous token = false := by
  cases ht : ambiguous token with
  | false => rfl
  | true =>
    rw [compose, if_pos ht] at h
    cases h

/-- A query is that of one token only, and says one thing under each key. -/
theorem compose_inj {token' q : String} (hf : Plain f) (hg : Plain g)
    (h : compose token (parameters keys f) = .ok q)
    (h' : compose token' (parameters keys g) = .ok q) :
    token = token' ∧ ∀ k ∈ keys, f k = g k := by
  obtain ⟨q₁, hq₁, hsplit⟩ := split_compose keys (ambiguous_of_compose_eq_ok h) hf
  obtain ⟨q₂, hq₂, hsplit'⟩ := split_compose keys (ambiguous_of_compose_eq_ok h') hg
  cases hq₁.symm.trans h
  cases hq₂.symm.trans h'
  obtain ⟨htoken, hparameters⟩ := List.cons.inj (hsplit.symm.trans hsplit')
  exact ⟨(String.append_right_inj _).1 htoken,
    fun _ hk => setting?_eq_of_parameters_eq hparameters hk⟩

theorem compose_congr {token' : String} (htoken : token = token') (h : ∀ k ∈ keys, f k = g k) :
    compose token (parameters keys f) = compose token' (parameters keys g) := by
  have hparameters : parameters keys f = parameters keys g :=
    List.filterMap_congr fun k hk => by rw [h k hk]
  rw [htoken, hparameters]

/-! ## Lists -/

/-- The names consist of small letters. -/
def Words (names : List String) : Prop :=
  (names.all fun n => n.toList.all Char.isLower) = true

theorem Words.isLower {names : List String} (h : Words names) :
    ∀ n ∈ names, ∀ c ∈ n.toList, c.isLower = true :=
  fun n hn => List.all_eq_true.1 (List.all_eq_true.1 h n hn)

theorem Words.notMem {names : List String} (h : Words names) {c : Char}
    (hc : c.isLower = false) : ∀ n ∈ names, c ∉ n.toList := by
  intro n hn hmem
  cases hc.symm.trans (h.isLower n hn c hmem)

theorem notMem_intercalate {c : Char} {s : String} {l : List String} (hs : c ∉ s.toList)
    (hl : ∀ t ∈ l, c ∉ t.toList) : c ∉ (s.intercalate l).toList := by
  induction l with
  | nil => simp
  | cons t l ih =>
    rw [List.forall_mem_cons] at hl
    cases l with
    | nil => rw [String.intercalate_singleton]; exact hl.1
    | cons u l =>
      rw [String.intercalate_cons_cons, String.toList_append, String.toList_append,
        List.mem_append, List.mem_append, not_or, not_or]
      exact ⟨⟨hl.1, hs⟩, ih hl.2⟩

theorem notMem_of_listSetting? {names : List String} {text : String} (h : Words names)
    (hs : listSetting? names = some (.value text)) : ';' ∉ text.toList := by
  unfold listSetting? at hs
  split at hs
  · cases hs
  · cases hs
    exact notMem_intercalate (by decide) (h.notMem rfl)

theorem split_intercalate {names : List String} (h : Words names) (hne : names ≠ []) :
    ((",".intercalate names).split ',').toList.map String.Slice.copy = names := by
  have hsplit := String.toList_split_intercalate (h.notMem (c := ',') rfl)
  rwa [if_neg hne] at hsplit

/-- The names of a list are told by its setting. -/
theorem listSetting?_inj {names names' : List String} (h : Words names) (h' : Words names')
    (hs : listSetting? names = listSetting? names') : names = names' := by
  cases names with
  | nil =>
    cases names' with
    | nil => rfl
    | cons n' ns' => cases hs
  | cons n ns =>
    cases names' with
    | nil => cases hs
    | cons n' ns' =>
      have htext : ",".intercalate (n :: ns) = ",".intercalate (n' :: ns') :=
        Setting.value.inj (Option.some.inj hs)
      rw [← split_intercalate h (List.cons_ne_nil n ns), htext,
        split_intercalate h' (List.cons_ne_nil n' ns')]

theorem parameters_listSetting? (k : Key) (names : List String) :
    ((listSetting? names).map k.parameter).toList = listParameter k.name names := by
  cases names with
  | nil => rfl
  | cons n names => rfl

/-! ## Switches -/

/-- The names of the switches that are on. -/
def selected (switches : List (Bool × String)) : List String :=
  switches.filterMap fun (on, name) => if on then some name else none

theorem mem_selected {switches : List (Bool × String)} {n : String} :
    n ∈ selected switches ↔ (true, n) ∈ switches := by
  constructor
  · intro h
    obtain ⟨⟨on, name⟩, hmem, hname⟩ := List.mem_filterMap.1 h
    cases on with
    | false => cases hname
    | true =>
      cases hname
      exact hmem
  · intro h
    exact List.mem_filterMap.2 ⟨(true, n), h, rfl⟩

theorem words_selected {switches : List (Bool × String)} (h : Words (switches.map Prod.snd)) :
    Words (selected switches) := by
  refine List.all_eq_true.2 fun n hn => List.all_eq_true.1 h n ?_
  exact List.mem_map_of_mem (f := Prod.snd) (mem_selected.1 hn)

/-- Of switches with distinct names, the one of a name is on if the name is selected. -/
theorem fst_iff_mem_selected {switches : List (Bool × String)}
    (hnodup : (switches.map Prod.snd).Nodup) {s : Bool × String} (hs : s ∈ switches) :
    s.1 = true ↔ s.2 ∈ selected switches := by
  rw [mem_selected]
  constructor
  · intro hon
    rwa [← hon]
  · intro hmem
    rw [List.inj_on_of_nodup_map hnodup hs hmem rfl]

/-- Switches of the same, distinct names are told by the names of those that are on. -/
theorem selected_inj {switches switches' : List (Bool × String)}
    (hnodup : (switches.map Prod.snd).Nodup)
    (hnames : switches.map Prod.snd = switches'.map Prod.snd)
    (h : selected switches = selected switches') : switches = switches' := by
  refine List.ext_getElem (by simpa using congrArg List.length hnames) fun i hi hi' => ?_
  have hname : switches[i].2 = switches'[i].2 := by
    simpa [List.getElem?_map, hi, hi'] using congrArg (·[i]?) hnames
  have hon : switches[i].1 = true ↔ switches'[i].1 = true := by
    rw [fst_iff_mem_selected hnodup (List.getElem_mem hi),
      fst_iff_mem_selected (hnames ▸ hnodup) (List.getElem_mem hi'), h, hname]
  exact Prod.ext (Bool.eq_iff_iff.2 hon) hname

/-- They are told by the setting of these names. -/
theorem switches_inj {switches switches' : List (Bool × String)}
    (hwords : Words (switches.map Prod.snd)) (hnodup : (switches.map Prod.snd).Nodup)
    (hnames : switches.map Prod.snd = switches'.map Prod.snd)
    (h : listSetting? (selected switches) = listSetting? (selected switches')) :
    switches = switches' :=
  selected_inj hnodup hnames
    (listSetting?_inj (words_selected hwords) (words_selected (hnames ▸ hwords)) h)

end Query

namespace GnssSelection

/-- The constellations, each with its name. -/
def switches (s : GnssSelection) : List (Bool × String) :=
  [(s.gps, "gps"), (s.glonass, "glo"), (s.qzss, "qzss"), (s.galileo, "gal"), (s.beidou, "bds")]

theorem words_switches (s : GnssSelection) : Query.Words (s.switches.map Prod.snd) :=
  (rfl : Query.Words ["gps", "glo", "qzss", "gal", "bds"])

theorem nodup_switches (s : GnssSelection) : (s.switches.map Prod.snd).Nodup :=
  (by decide : ["gps", "glo", "qzss", "gal", "bds"].Nodup)

theorem words_names (s : GnssSelection) : Query.Words s.names :=
  Query.words_selected s.words_switches

/-- The constellations are told by their setting. -/
theorem setting_inj {s s' : GnssSelection}
    (h : Query.listSetting? s.names = Query.listSetting? s'.names) : s = s' := by
  have hswitches : s.switches = s'.switches :=
    Query.switches_inj s.words_switches s.nodup_switches rfl h
  cases s
  cases s'
  simpa [switches] using hswitches

end GnssSelection

end GnssAiding
