/-
The query of the online service says what the request says.

Each field of a request is one setting of the query, the position four (`setting?`). The
settings tell the fields (`eq_of_setting?_eq`): a list of names its switches, and a number its
value, since what is rendered with decimals is exact. So a query is cut into just the
parameters that are set, in the order of `keys`, and is the query of one request only
(`query_decodable`).
-/
import GnssAiding.Proofs.Request.FixedPoint
import GnssAiding.Proofs.Request.Query
import GnssAiding.Request.Online

namespace GnssAiding

open Query (Key Setting Plain)

namespace DataTypes

/-- The kinds of data, each with its name. -/
def switches (t : DataTypes) : List (Bool × String) :=
  [(t.ephemeris, "eph"), (t.almanac, "alm"), (t.auxiliary, "aux"), (t.position, "pos")]

theorem words_switches (t : DataTypes) : Query.Words (t.switches.map Prod.snd) :=
  (rfl : Query.Words ["eph", "alm", "aux", "pos"])

theorem nodup_switches (t : DataTypes) : (t.switches.map Prod.snd).Nodup :=
  (by decide : ["eph", "alm", "aux", "pos"].Nodup)

theorem words_names (t : DataTypes) : Query.Words t.names :=
  Query.words_selected t.words_switches

/-- The kinds of data are told by their setting. -/
theorem setting_inj {t t' : DataTypes}
    (h : Query.listSetting? t.names = Query.listSetting? t'.names) : t = t' := by
  have hswitches : t.switches = t'.switches :=
    Query.switches_inj t.words_switches t.nodup_switches rfl h
  cases t
  cases t'
  simpa [switches] using hswitches

end DataTypes

namespace OnlineRequest

/-- What can be set, in its order. -/
def keys : List Key :=
  [.gnss, .dataTypes, .latitude, .longitude, .altitude, .accuracy, .filterOnPosition, .latency,
    .timeAccuracy, .format]

/-- A number with so many decimals. -/
def number (value : Int) (decimals : Nat) : Setting := .value (FixedPoint.text value decimals)

/-- What a request says under each key. -/
def setting? (r : OnlineRequest) : Key → Option Setting
  | .gnss => Query.listSetting? r.gnss.names
  | .dataTypes => Query.listSetting? r.dataTypes.names
  | .latitude => r.position.map fun p => number p.latitude.toInt 7
  | .longitude => r.position.map fun p => number p.longitude.toInt 7
  | .altitude => r.position.map fun p => number p.altitude.toInt 3
  | .accuracy => r.position.map fun p => number p.accuracy.toNat 3
  | .filterOnPosition => if r.filterOnPosition then some .flag else none
  | .latency => r.latency.map fun n : Nat => number n 3
  | .timeAccuracy => r.timeAccuracy.map fun n : Nat => number n 3
  | .format => if r.legacyAiding then some (.value "aid") else none
  | _ => none

/-- A number that is there or not. -/
theorem number_eq (k : Key) (n : Option Nat) :
    (n.map fun n => fixed k.name n 3).toList =
      ((n.map fun n : Nat => number n 3).map k.parameter).toList := by
  cases n <;> rfl

theorem parameters_eq (r : OnlineRequest) : r.parameters = Query.parameters keys r.setting? := by
  have hgnss : Query.listParameter "gnss" r.gnss.names =
      ((r.setting? .gnss).map Key.gnss.parameter).toList :=
    (Query.parameters_listSetting? .gnss _).symm
  have hdataTypes : Query.listParameter "datatype" r.dataTypes.names =
      ((r.setting? .dataTypes).map Key.dataTypes.parameter).toList :=
    (Query.parameters_listSetting? .dataTypes _).symm
  have hposition : (r.position.map positionParameters).getD [] =
      Query.parameters [.latitude, .longitude, .altitude, .accuracy] r.setting? := by
    cases hp : r.position with
    | none => simp [Query.parameters, setting?, hp]
    | some p =>
      simp only [Query.parameters_cons, Query.parameters_nil, setting?, hp, Option.map_some]
      rfl
  have hfilter : (if r.filterOnPosition then ["filteronpos"] else []) =
      ((r.setting? .filterOnPosition).map Key.filterOnPosition.parameter).toList :=
    (Query.parameters_ite .filterOnPosition .flag r.filterOnPosition).symm
  have hlatency : (r.latency.map fun n => fixed "latency" n 3).toList =
      ((r.setting? .latency).map Key.latency.parameter).toList := number_eq .latency r.latency
  have haccuracy : (r.timeAccuracy.map fun n => fixed "tacc" n 3).toList =
      ((r.setting? .timeAccuracy).map Key.timeAccuracy.parameter).toList :=
    number_eq .timeAccuracy r.timeAccuracy
  have hformat : (if r.legacyAiding then ["format=aid"] else []) =
      ((r.setting? .format).map Key.format.parameter).toList :=
    (Query.parameters_ite .format (.value "aid") r.legacyAiding).symm
  rw [parameters, hgnss, hdataTypes, hposition, hfilter, hlatency, haccuracy, hformat]
  simp only [keys, Query.parameters_cons, Query.parameters_nil, List.append_assoc, List.append_nil]

theorem query_eq (r : OnlineRequest) :
    r.query = Query.compose r.token (Query.parameters keys r.setting?) := by
  rw [query, parameters_eq]

theorem number_inj {value value' : Int} {decimals : Nat} (hd : 0 < decimals)
    (h : number value decimals = number value' decimals) : value = value' :=
  FixedPoint.text_inj hd (Setting.value.inj h)

theorem notMem_of_number {value : Int} {decimals : Nat} {text : String} (hd : 0 < decimals)
    (h : number value decimals = .value text) : ';' ∉ text.toList := by
  cases h
  intro hmem
  rcases (FixedPoint.exact_text value hd).mem hmem with hdigit | hsign | hpoint
  · cases hdigit
  · cases hsign
  · cases hpoint

theorem plain_setting? (r : OnlineRequest) : Plain r.setting? := by
  intro k text h
  cases k with
  | gnss => exact Query.notMem_of_listSetting? r.gnss.words_names h
  | dataTypes => exact Query.notMem_of_listSetting? r.dataTypes.words_names h
  | latitude | longitude | altitude | accuracy | latency | timeAccuracy =>
    obtain ⟨_, -, hnumber⟩ := Option.map_eq_some_iff.1 h
    exact notMem_of_number (by decide) hnumber
  | filterOnPosition =>
    simp only [setting?] at h
    split at h <;> cases h
  | format =>
    simp only [setting?] at h
    split at h
    · cases h
      decide
    · cases h
  | almanacs | weeks | days | resolution => cases h

/-- The numbers of a position tell the position. -/
theorem position_inj {p p' : Position}
    (hlatitude : number p.latitude.toInt 7 = number p'.latitude.toInt 7)
    (hlongitude : number p.longitude.toInt 7 = number p'.longitude.toInt 7)
    (haltitude : number p.altitude.toInt 3 = number p'.altitude.toInt 3)
    (haccuracy : number p.accuracy.toNat 3 = number p'.accuracy.toNat 3) : p = p' := by
  have hlat := Int32.toInt_inj.1 (number_inj (by decide) hlatitude)
  have hlon := Int32.toInt_inj.1 (number_inj (by decide) hlongitude)
  have halt := Int32.toInt_inj.1 (number_inj (by decide) haltitude)
  have hacc := UInt32.toNat_inj.1 (Int.ofNat_inj.1 (number_inj (by decide) haccuracy))
  cases p
  cases p'
  simp_all

/-- The settings of two requests with one token tell them apart. -/
theorem eq_of_setting?_eq {r r' : OnlineRequest} (htoken : r.token = r'.token)
    (h : ∀ k ∈ keys, r.setting? k = r'.setting? k) : r = r' := by
  have hgnss : r.gnss = r'.gnss := GnssSelection.setting_inj (h .gnss (by decide))
  have hdataTypes : r.dataTypes = r'.dataTypes := DataTypes.setting_inj (h .dataTypes (by decide))
  have hposition : r.position = r'.position := by
    have hlat := h .latitude (by decide)
    have hlon := h .longitude (by decide)
    have halt := h .altitude (by decide)
    have hacc := h .accuracy (by decide)
    cases hp : r.position with
    | none =>
      cases hp' : r'.position with
      | none => rfl
      | some p' => simp [setting?, hp, hp'] at hlat
    | some p =>
      cases hp' : r'.position with
      | none => simp [setting?, hp, hp'] at hlat
      | some p' =>
        simp only [setting?, hp, hp', Option.map_some, Option.some.injEq] at hlat hlon halt hacc
        rw [position_inj hlat hlon halt hacc]
  have hfilter : r.filterOnPosition = r'.filterOnPosition :=
    Query.ite_setting_inj (h .filterOnPosition (by decide))
  have hnumber : Function.Injective fun n : Nat => number n 3 := fun n n' hn =>
    Int.ofNat_inj.1 (number_inj (by decide) hn)
  have hlatency : r.latency = r'.latency := Option.map_injective hnumber (h .latency (by decide))
  have htimeAccuracy : r.timeAccuracy = r'.timeAccuracy :=
    Option.map_injective hnumber (h .timeAccuracy (by decide))
  have hformat : r.legacyAiding = r'.legacyAiding := Query.ite_setting_inj (h .format (by decide))
  cases r
  cases r'
  simp_all

/-- **A query tells its request.** A request with an accepted token has a query. Cut at its
semicolons, that is the parameter of the token and then the parameters that are set, each under
its own key in the order of `keys`; and it is the query of no other request. -/
theorem query_decodable (r : OnlineRequest) (h : Query.ambiguous r.token = false) :
    ∃ q, r.query = .ok q ∧
      Query.split q = ("token=" ++ r.token) :: Query.parameters keys r.setting? ∧
      ∀ r' : OnlineRequest, r'.query = .ok q → r' = r := by
  obtain ⟨q, hq, hsplit⟩ := Query.split_compose keys h r.plain_setting?
  refine ⟨q, r.query_eq.trans hq, hsplit, fun r' hq' => ?_⟩
  rw [query_eq] at hq'
  obtain ⟨htoken, hsettings⟩ := Query.compose_inj r'.plain_setting? r.plain_setting? hq' hq
  exact eq_of_setting?_eq htoken hsettings

/-- A request with all kinds of parameters. -/
def visibleEphemerides : OnlineRequest where
  token := "a=b,gnss=gps"
  gnss := ⟨true, false, false, true, false⟩
  dataTypes := ⟨true, false, false, false⟩
  position := some ⟨-5, 80000000, 500000, 10000⟩
  filterOnPosition := true
  latency := some 250
  timeAccuracy := none
  legacyAiding := true

theorem query_decodable_visibleEphemerides :
    Query.ambiguous visibleEphemerides.token = false ∧
      ∃ q, visibleEphemerides.query = .ok q ∧
        Query.split q =
          ["token=a=b,gnss=gps", "gnss=gps,gal", "datatype=eph", "lat=-0.0000005", "lon=8.0000000",
            "alt=500.000", "pacc=10.000", "filteronpos", "latency=0.250", "format=aid"] ∧
        ∀ r' : OnlineRequest, r'.query = .ok q → r' = visibleEphemerides := by
  have htoken : Query.ambiguous visibleEphemerides.token = false := by decide
  obtain ⟨q, hq, hsplit, hunique⟩ := query_decodable visibleEphemerides htoken
  exact ⟨htoken, q, hq, hsplit.trans (by decide +kernel), hunique⟩

end OnlineRequest

end GnssAiding
