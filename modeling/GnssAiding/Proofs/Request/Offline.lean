/-
The query of the offline service says what will be delivered.

Three fields of a request compete for how long the data lasts. `Lasts` says which one counts;
where it is the number of days of the legacy service, that is the nearest it delivers
(`Nearest`), which is what the search over the list finds (`nearest_iff`). So two requests have
one query if they agree on that and on all other fields (`query_eq_iff`): what does not count
is not in the query.
-/
import GnssAiding.Proofs.Request.FixedPoint
import GnssAiding.Proofs.Request.Query
import GnssAiding.Request.Offline
import Mathlib.Data.Nat.Dist

namespace GnssAiding

open Query (Key Setting Plain)

/-! ## The nearest of a list -/

/-- `n` is nearer to `days` than `d`, or as near and not smaller. -/
def Closer (days n d : Nat) : Prop :=
  n.dist days < d.dist days ∨ n.dist days = d.dist days ∧ d ≤ n

instance (days n d : Nat) : Decidable (Closer days n d) := inferInstanceAs (Decidable (_ ∨ _))

/-- `n` is the number of days delivered that is nearest to `days`, the larger one of two. -/
def Nearest (days n : Nat) : Prop := n ∈ legacyDays ∧ ∀ d ∈ legacyDays, Closer days n d

instance (days n : Nat) : Decidable (Nearest days n) := inferInstanceAs (Decidable (_ ∧ _))

section Closer

variable {days n m d : Nat}

theorem Closer.refl (days n : Nat) : Closer days n n := .inr ⟨rfl, le_rfl⟩

theorem Closer.trans (h : Closer days n m) (h' : Closer days m d) : Closer days n d := by
  unfold Closer at *
  omega

theorem Closer.antisymm (h : Closer days n m) (h' : Closer days m n) : n = m := by
  unfold Closer at *
  omega

/-- Going up a list, whatever is as near as the best so far takes its place. -/
theorem foldl_closer (days : Nat) {best : Nat} {ds : List Nat}
    (hsorted : (best :: ds).Pairwise (· ≤ ·)) :
    let nearest := ds.foldl (fun best d => if d.dist days ≤ best.dist days then d else best) best
    nearest ∈ best :: ds ∧ ∀ d ∈ best :: ds, Closer days nearest d := by
  induction ds generalizing best with
  | nil => simp [Closer.refl]
  | cons d ds ih =>
    simp only [List.pairwise_cons] at hsorted
    obtain ⟨hbest, hd, hds⟩ := hsorted
    have hle : best ≤ d := hbest d List.mem_cons_self
    rw [List.foldl_cons]
    generalize hnext : (if d.dist days ≤ best.dist days then d else best) = next
    have hcloser : Closer days next best ∧ Closer days next d ∧ (next = best ∨ next = d) := by
      unfold Closer
      split at hnext <;> subst hnext <;> omega
    have hlower : ∀ e ∈ ds, next ≤ e := by
      intro e he
      rcases hcloser.2.2 with rfl | rfl
      · exact hbest e (List.mem_cons_of_mem _ he)
      · exact hd e he
    obtain ⟨hmem, hall⟩ := ih (List.pairwise_cons.2 ⟨hlower, hds⟩)
    have hnearest := hall next List.mem_cons_self
    constructor
    · rcases List.mem_cons.1 hmem with heq | hmem
      · rw [heq]
        rcases hcloser.2.2 with rfl | rfl
        · exact List.mem_cons_self
        · exact List.mem_cons_of_mem _ List.mem_cons_self
      · exact List.mem_cons_of_mem _ (List.mem_cons_of_mem _ hmem)
    · refine List.forall_mem_cons.2 ⟨hnearest.trans hcloser.1, List.forall_mem_cons.2 ⟨?_, ?_⟩⟩
      · exact hnearest.trans hcloser.2.1
      · exact fun e he => hall e (List.mem_cons_of_mem _ he)

end Closer

/-- The search finds the nearest number of days, and there is no other. -/
theorem nearest_iff {days n : Nat} : Nearest days n ↔ n = nearestLegacyDays days := by
  have hsorted : (1 :: legacyDays).Pairwise (· ≤ ·) := by decide
  have hsame : ∀ d, d ∈ 1 :: legacyDays ↔ d ∈ legacyDays := by simp [legacyDays]
  have hfound : Nearest days (nearestLegacyDays days) := by
    obtain ⟨hmem, hall⟩ := foldl_closer days hsorted
    exact ⟨(hsame _).1 hmem, fun d hd => hall d ((hsame d).2 hd)⟩
  constructor
  · intro h
    exact (h.2 _ hfound.1).antisymm (hfound.2 _ h.1)
  · rintro rfl
    exact hfound

/-! ## How long the data lasts -/

/-- An amount of data, in the unit in which it is asked for: two weeks are neither two days nor
fourteen. -/
inductive Span
  | days (n : Nat)
  | weeks (n : Nat)
deriving DecidableEq, Repr

/-- The amount that a period stands for. -/
def Period.span : Period → Span
  | .legacyDays n => .days n
  | .weeks n => .weeks n
  | .days n => .days n

namespace OfflineRequest

/-- How long the data lasts that a request asks for. -/
inductive Lasts (r : OfflineRequest) : Span → Prop
  /-- The legacy service delivers a few numbers of days only. -/
  | legacy {n : Nat} (h : r.legacyAiding = true) (hn : Nearest (r.days.getD 28) n) :
      Lasts r (.days n)
  /-- The other one counts weeks if they are given, -/
  | weeks {n : Nat} (h : r.legacyAiding = false) (hn : r.weeks = some n) : Lasts r (.weeks n)
  /-- and otherwise days, which are moved into 1..35. -/
  | days (h : r.legacyAiding = false) (hn : r.weeks = none) :
      Lasts r (.days (max 1 (min (r.days.getD 28) 35)))

/-- One amount is asked for, and one only. -/
theorem lasts_iff {r : OfflineRequest} {s : Span} : r.Lasts s ↔ s = r.period.span := by
  unfold period
  constructor
  · rintro (⟨h, hn⟩ | ⟨h, hn⟩ | ⟨h, hn⟩)
    · rw [if_pos h, nearest_iff.1 hn]
      rfl
    · rw [if_neg (Bool.eq_false_iff.1 h), hn]
      rfl
    · rw [if_neg (Bool.eq_false_iff.1 h), hn]
      rfl
  · rintro rfl
    cases h : r.legacyAiding with
    | true => exact .legacy h (nearest_iff.2 rfl)
    | false =>
      cases hn : r.weeks with
      | some n => exact .weeks h hn
      | none => exact .days h hn

/-- A legacy file is wanted where the days are those of the legacy service. -/
theorem legacyAiding_eq (r : OfflineRequest) :
    r.legacyAiding = match r.period with
      | .legacyDays _ => true
      | .weeks _ | .days _ => false := by
  unfold period
  cases r.legacyAiding with
  | true => rfl
  | false => cases r.weeks <;> rfl

/-! ## Settings -/

/-- What can be set, in its order. -/
def keys : List Key := [.gnss, .almanacs, .format, .weeks, .days, .resolution]

/-- A whole number. -/
def number (n : Nat) : Setting := .value (toString n)

/-- What a request says under each key. -/
def setting? (r : OfflineRequest) : Key → Option Setting
  | .gnss => Query.listSetting? r.gnss.names
  | .almanacs => Query.listSetting? r.almanac.names
  | .format => if r.legacyAiding then some (.value "aid") else none
  | .weeks =>
    match r.period.span with
    | .weeks n => some (number n)
    | .days _ => none
  | .days =>
    match r.period.span with
    | .weeks _ => none
    | .days n => some (number n)
  | .resolution => r.resolution.map number
  | _ => none

theorem parameters_eq (r : OfflineRequest) : r.parameters = Query.parameters keys r.setting? := by
  have hgnss : Query.listParameter "gnss" r.gnss.names =
      ((r.setting? .gnss).map Key.gnss.parameter).toList :=
    (Query.parameters_listSetting? .gnss _).symm
  have halmanac : Query.listParameter "alm" r.almanac.names =
      ((r.setting? .almanacs).map Key.almanacs.parameter).toList :=
    (Query.parameters_listSetting? .almanacs _).symm
  have hperiod : r.period.parameters = Query.parameters [.format, .weeks, .days] r.setting? := by
    have hlegacy := r.legacyAiding_eq
    cases hp : r.period with
    | legacyDays n | weeks n | days n =>
      rw [hp] at hlegacy
      simp only [Query.parameters_cons, Query.parameters_nil, setting?, hlegacy, hp, Period.span]
      rfl
  have hresolution : (r.resolution.map fun n => "resolution=" ++ toString n).toList =
      ((r.setting? .resolution).map Key.resolution.parameter).toList := by
    rw [setting?, Option.map_map]
    rfl
  rw [parameters, hgnss, halmanac, hperiod, hresolution]
  simp only [keys, Query.parameters_cons, Query.parameters_nil, List.append_assoc, List.append_nil]

theorem query_eq (r : OfflineRequest) :
    r.query = Query.compose r.token (Query.parameters keys r.setting?) := by
  rw [query, parameters_eq]

theorem number_inj {n n' : Nat} (h : number n = number n') : n = n' := by
  have hdigits : Nat.toDigits 10 n = Nat.toDigits 10 n' := by
    rw [← Nat.toList_repr, ← Nat.toList_repr]
    exact congrArg String.toList (Setting.value.inj h)
  rw [← Text.ofDigits_toDigits n, hdigits, Text.ofDigits_toDigits]

theorem notMem_of_number {n : Nat} {text : String} (h : number n = .value text) :
    ';' ∉ text.toList := by
  cases h
  intro hmem
  rw [Nat.toString_eq_repr, Nat.toList_repr] at hmem
  cases Text.isDigit_of_mem_toDigits hmem

theorem plain_setting? (r : OfflineRequest) : Plain r.setting? := by
  intro k text h
  cases k with
  | gnss => exact Query.notMem_of_listSetting? r.gnss.words_names h
  | almanacs => exact Query.notMem_of_listSetting? r.almanac.words_names h
  | format =>
    simp only [setting?] at h
    split at h
    · cases h
      decide
    · cases h
  | weeks =>
    cases hs : r.period.span with
    | days n => simp [setting?, hs] at h
    | weeks n =>
      simp only [setting?, hs, Option.some.injEq] at h
      exact notMem_of_number h
  | days =>
    cases hs : r.period.span with
    | days n =>
      simp only [setting?, hs, Option.some.injEq] at h
      exact notMem_of_number h
    | weeks n => simp [setting?, hs] at h
  | resolution =>
    obtain ⟨_, -, hnumber⟩ := Option.map_eq_some_iff.1 h
    exact notMem_of_number hnumber
  | dataTypes | latitude | longitude | altitude | accuracy | filterOnPosition | latency
  | timeAccuracy => cases h

/-- Weeks and days tell the amount: just one of them is set. -/
theorem span_inj {r r' : OfflineRequest} (hweeks : r.setting? .weeks = r'.setting? .weeks)
    (hdays : r.setting? .days = r'.setting? .days) : r.period.span = r'.period.span := by
  cases hs : r.period.span with
  | days n =>
    cases hs' : r'.period.span with
    | days n' =>
      simp only [setting?, hs, hs', Option.some.injEq] at hdays
      rw [number_inj hdays]
    | weeks n' => simp [setting?, hs, hs'] at hdays
  | weeks n =>
    cases hs' : r'.period.span with
    | days n' => simp [setting?, hs, hs'] at hdays
    | weeks n' =>
      simp only [setting?, hs, hs', Option.some.injEq] at hweeks
      rw [number_inj hweeks]

/-- Two requests say the same under all keys if they agree on what counts. -/
theorem setting?_eq_iff {r r' : OfflineRequest} :
    (∀ k ∈ keys, r.setting? k = r'.setting? k) ↔
      r.gnss = r'.gnss ∧ r.almanac = r'.almanac ∧ r.legacyAiding = r'.legacyAiding ∧
        r.resolution = r'.resolution ∧ r.period.span = r'.period.span := by
  constructor
  · intro h
    have hresolution : r.resolution = r'.resolution :=
      Option.map_injective (fun _ _ => number_inj) (h .resolution (by decide))
    exact ⟨GnssSelection.setting_inj (h .gnss (by decide)),
      GnssSelection.setting_inj (h .almanacs (by decide)),
      Query.ite_setting_inj (h .format (by decide)), hresolution,
      span_inj (h .weeks (by decide)) (h .days (by decide))⟩
  · rintro ⟨hgnss, halmanac, hlegacy, hresolution, hspan⟩ k -
    cases k <;> simp only [setting?, hgnss, halmanac, hlegacy, hresolution, hspan]

/-- **A query says what will be delivered.** Two requests with accepted tokens have queries,
and each asks for one amount of data. The queries are equal if and only if the requests agree
on the token, both selections of constellations, the service, the days between records and
that amount; what else they say of days and weeks does not matter. -/
theorem query_eq_iff (r r' : OfflineRequest) (h : Query.ambiguous r.token = false)
    (h' : Query.ambiguous r'.token = false) :
    ∃ q q' s s', r.query = .ok q ∧ r'.query = .ok q' ∧
      (∀ t, r.Lasts t ↔ t = s) ∧ (∀ t, r'.Lasts t ↔ t = s') ∧
      (q = q' ↔ r.token = r'.token ∧ r.gnss = r'.gnss ∧ r.almanac = r'.almanac ∧
        r.legacyAiding = r'.legacyAiding ∧ r.resolution = r'.resolution ∧ s = s') := by
  obtain ⟨q, hq, -⟩ := Query.split_compose keys h r.plain_setting?
  obtain ⟨q', hq', -⟩ := Query.split_compose keys h' r'.plain_setting?
  refine ⟨q, q', _, _, r.query_eq.trans hq, r'.query_eq.trans hq', fun _ => lasts_iff,
    fun _ => lasts_iff, ?_⟩
  rw [← setting?_eq_iff]
  constructor
  · rintro rfl
    exact Query.compose_inj r.plain_setting? r'.plain_setting? hq hq'
  · rintro ⟨htoken, hsettings⟩
    have hsame := Query.compose_congr htoken hsettings
    exact Except.ok.inj (hq.symm.trans (hsame.trans hq'))

/-- A legacy file for twelve days, as near to ten as to a fortnight; the weeks do not count. -/
def twelveDays : OfflineRequest where
  token := "AAA"
  gnss := ⟨true, false, false, false, false⟩
  almanac := .none
  legacyAiding := true
  days := some 12
  weeks := some 3
  resolution := none

/-- It is a fortnight that is asked for, as by a request that leaves the days open. -/
theorem query_eq_iff_twelveDays :
    Query.ambiguous twelveDays.token = false ∧ twelveDays.Lasts (.days 14) ∧
      twelveDays.query = { twelveDays with days := none, weeks := none }.query := by
  have htoken : Query.ambiguous twelveDays.token = false := by decide
  have hlasts : twelveDays.Lasts (.days 14) := .legacy rfl (by decide)
  have hlasts' : Lasts { twelveDays with days := none, weeks := none } (.days 14) :=
    .legacy rfl (by decide)
  obtain ⟨q, q', s, s', hq, hq', hs, hs', hiff⟩ :=
    query_eq_iff twelveDays { twelveDays with days := none, weeks := none } htoken htoken
  have hspan : s = s' := ((hs _).1 hlasts).symm.trans ((hs' _).1 hlasts')
  rw [hq, hq', hiff.2 ⟨rfl, rfl, rfl, rfl, rfl, hspan⟩]
  exact ⟨htoken, hlasts, rfl⟩

end OfflineRequest

end GnssAiding
