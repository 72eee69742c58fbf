import Phrasebook.Http.Setup
import Phrasebook.Settings.Check
import Phrasebook.Proofs.Json.Strings
/-!
# Which settings make a site

Settings are checked once, before anything is built from them. The check knows the bounds of the limit, the same ones
as the limiter itself, so that the limiter is never refused. It does not look at the list of origins. So there are
settings that pass the check and make no site, and whether they do is decided by that list alone
(`Site.site_of_checked_settings_iff`): an entry that no header can hold is refused, and a star in a list of several
entries, all of which a header can hold, breaks the construction down.
-/

set_option autoImplicit false

namespace Phrasebook

/-! ## What the check promises -/

namespace Settings

/-- There is no problem exactly if nothing is wrong. -/
theorem firstProblem_eq_ok_iff (conditions : List (Bool × Problem)) :
    firstProblem conditions = .ok () ↔ ∀ c ∈ conditions, c.1 = false := by
  induction conditions with
  | nil => simp [firstProblem]
  | cons c conditions ih =>
    obtain ⟨wrong, p⟩ := c
    cases wrong with
    | true => simp [firstProblem]
    | false => simp [firstProblem, ih]

/-- What comes last in a check has no problem if nothing has. -/
theorem last_of_ok {first last : Except Problem Unit} (h : (do first; last) = .ok ()) : last = .ok () := by
  cases first with
  | error p => cases h
  | ok => exact h

/-- What passes the check has a limit for which there is a limiter. -/
theorem limiter_of_check {s : Settings} (h : s.check = .ok ()) :
    RateLimit.Limiter.ofRule? s.rateLimit.max s.rateLimit.intervalSecs =
      .ok { rule := ⟨s.rateLimit.max, s.rateLimit.intervalSecs⟩ } := by
  have hall := (firstProblem_eq_ok_iff _).1 (last_of_ok (last_of_ok (last_of_ok h)))
  have hpositive := hall (s.rateLimit.max == 0 || s.rateLimit.intervalSecs ≤ 0, .noLimit) (by simp)
  have hday := hall (s.rateLimit.intervalSecs > RateLimit.maxIntervalSecs, .intervalTooLong) (by simp)
  simp only [Bool.or_eq_false_iff, beq_eq_false_iff_ne, decide_eq_false_iff_not] at hpositive hday
  rw [RateLimit.Limiter.ofRule?, if_neg (not_or.2 hpositive), if_neg hday]

end Settings

namespace Http

/-! ## What a header can hold -/

/-- A character that a header value can hold: visible ASCII, a space or a tab. -/
def IsHeaderChar (c : Char) : Prop := (0x20 ≤ c.toNat ∧ c.toNat < 0x7F) ∨ c = '\t'

instance (c : Char) : Decidable (IsHeaderChar c) := inferInstanceAs (Decidable (_ ∨ _))

/-- The bytes that may stand in the text of a header are those of ASCII that can be seen, the blank and the tab. -/
theorem isTextByte_iff (b : UInt8) : isTextByte b = true ↔ (0x20 ≤ b.toNat ∧ b.toNat < 0x7F) ∨ b.toNat = 0x09 := by
  simp only [isTextByte, Bool.or_eq_true, Bool.and_eq_true, decide_eq_true_eq, beq_iff_eq, UInt8.le_iff_toNat_le,
    UInt8.lt_iff_toNat_lt, ← UInt8.toNat_inj]
  rfl

/-- A character may stand in a header exactly if all of its bytes may. -/
theorem all_utf8EncodeChar_iff (c : Char) : (String.utf8EncodeChar c).all isTextByte = true ↔ IsHeaderChar c := by
  have htab : c = '\t' ↔ c.toNat = 0x09 := ⟨fun h => by rw [h]; rfl, fun h => Char.toNat_inj.1 h⟩
  rw [IsHeaderChar, htab]
  by_cases hascii : c.toNat < 0x80
  · have hbyte : (UInt8.ofNat c.toNat).toNat = c.toNat := UInt8.toNat_ofNat_of_lt' (Nat.lt_trans hascii (by decide))
    rw [Json.utf8EncodeChar_of_ascii hascii, List.all_cons, List.all_nil, Bool.and_true, isTextByte_iff, hbyte]
  · -- the first byte of such a character is beyond ASCII already
    refine iff_of_false ?_ (by omega)
    intro hall
    obtain ⟨b, hb⟩ := List.exists_mem_of_ne_nil (String.utf8EncodeChar c) (by simp [String.utf8EncodeChar_ne_nil])
    have hlarge := Json.le_of_mem_utf8EncodeChar (by omega) b hb
    have htext := (isTextByte_iff b).1 (List.all_eq_true.1 hall b hb)
    omega

/-- A text may stand in a header exactly if all of its characters may. -/
theorem all_encode_iff (s : String) : (Text.encode s).all isTextByte = true ↔ ∀ c ∈ s.toList, IsHeaderChar c := by
  rw [Text.encode, List.all_flatMap, List.all_eq_true]
  simp only [all_utf8EncodeChar_iff]

/-! ## What becomes of a setting of origins -/

namespace Cors

/-- A setting admits everyone: it is blank, or a star. -/
def IsOpen (setting : String) : Prop := Text.trim setting = "" ∨ Text.trim setting = "*"

/-- The entries of a setting that does not, without the blanks around them. -/
def origins (setting : String) : List String := entries (Text.trim setting)

/-- A header can hold every entry. -/
def AllFit (setting : String) : Prop := ∀ entry ∈ origins setting, ∀ c ∈ entry.toList, IsHeaderChar c

/-- A setting that makes a rule: it admits everyone, or its entries are origins that a header can hold. -/
def IsUsable (setting : String) : Prop := IsOpen setting ∨ AllFit setting ∧ "*" ∉ origins setting

variable (setting : String)

instance : Decidable (IsOpen setting) := inferInstanceAs (Decidable (_ ∨ _))

/-- Everybody is let in where the setting is empty or a star. -/
theorem isOpen_iff : ((Text.trim setting).isEmpty || Text.trim setting == "*") = true ↔ IsOpen setting := by
  rw [Bool.or_eq_true, String.isEmpty_iff, beq_iff_eq, IsOpen]

/-- The origins fit into headers exactly if each can stand in one. -/
theorem allFit_iff : (((origins setting).map Text.encode).all (·.all isTextByte)) = true ↔ AllFit setting := by
  rw [List.all_map, List.all_eq_true]
  exact forall₂_congr fun entry _ => all_encode_iff entry

instance : Decidable (AllFit setting) := decidable_of_iff _ (allFit_iff setting)

instance : Decidable (IsUsable setting) := inferInstanceAs (Decidable (_ ∨ _ ∧ _))

/-- A star is among the origins in bytes exactly if it is among their texts. -/
theorem star_mem_iff : ((origins setting).map Text.encode).contains star = true ↔ "*" ∈ origins setting := by
  rw [List.contains_iff_mem, List.mem_map]
  constructor
  · rintro ⟨entry, hentry, hstar⟩
    rwa [Text.encode_injective hstar] at hentry
  · intro hmem
    exact ⟨"*", hmem, rfl⟩

/-- **The rule of a setting**, in the order in which it is looked at. -/
theorem ofSetting?_eq : ofSetting? setting =
    if IsOpen setting then .ok .any
    else if ¬ AllFit setting then .error .badEntry
    else if "*" ∈ origins setting then .error .starInList
    else .ok (.listed ((origins setting).map Text.encode)) := by
  unfold ofSetting?
  -- open first, then the characters, then the star: the order of the checks in the definition
  by_cases hopen : IsOpen setting
  · rw [if_pos hopen, if_pos ((isOpen_iff setting).2 hopen)]
  · rw [if_neg hopen, if_neg (mt (isOpen_iff setting).1 hopen)]
    by_cases hfit : AllFit setting
    · have hall : (!((origins setting).map Text.encode).all (·.all isTextByte)) ≠ true := by
        rw [(allFit_iff setting).2 hfit]
        exact Bool.false_ne_true
      rw [if_neg (not_not_intro hfit)]
      refine (if_neg hall).trans ?_
      by_cases hstar : "*" ∈ origins setting
      · rw [if_pos hstar]
        exact if_pos ((star_mem_iff setting).2 hstar)
      · rw [if_neg hstar]
        exact if_neg (mt (star_mem_iff setting).1 hstar)
    · have hnot : (!((origins setting).map Text.encode).all (·.all isTextByte)) = true := by
        rw [Bool.not_eq_true', ← Bool.not_eq_true]
        exact mt (allFit_iff setting).1 hfit
      rw [if_pos hfit]
      exact if_pos hnot

end Cors

namespace Site

variable {s : Settings} (desk : Desk) (taken : Bool)

/-- The limit makes no difference to whether checked settings make a site. -/
theorem ofSettings?_of_check (h : s.check = .ok ()) :
    (∀ e, Cors.ofSetting? s.allowOrigins = .error e → Site.ofSettings? s desk taken = .error (.ofCors e)) ∧
      ∀ c, Cors.ofSetting? s.allowOrigins = .ok c → ∃ site, Site.ofSettings? s desk taken = .ok site := by
  rw [ofSettings?, Settings.limiter_of_check h]
  constructor
  · intro e he
    rw [he]
    rfl
  · intro c hc
    rw [hc]
    exact ⟨_, rfl⟩

/-- **What checked settings make.** Whether they make a site depends on the list of origins alone. If an entry of the
list is nothing that a header can hold, the settings are refused; if all are, and one is a star, the construction breaks
down; and otherwise there is a site. -/
theorem site_of_checked_settings_iff (h : s.check = .ok ()) :
    ((∃ site, Site.ofSettings? s desk taken = .ok site) ↔ Cors.IsUsable s.allowOrigins) ∧
    ((∃ message, Site.ofSettings? s desk taken = .error (.refused message)) ↔
      ¬ Cors.IsOpen s.allowOrigins ∧ ¬ Cors.AllFit s.allowOrigins) ∧
    ((∃ p, Site.ofSettings? s desk taken = .error (.breakdown p)) ↔
      ¬ Cors.IsOpen s.allowOrigins ∧ Cors.AllFit s.allowOrigins ∧ "*" ∈ Cors.origins s.allowOrigins) := by
  obtain ⟨hbad, hgood⟩ := ofSettings?_of_check desk taken h
  have hrule := Cors.ofSetting?_eq s.allowOrigins
  rw [Cors.IsUsable]
  by_cases hopen : Cors.IsOpen s.allowOrigins
  · rw [if_pos hopen] at hrule
    obtain ⟨site, hsite⟩ := hgood _ hrule
    simp [hsite, hopen]
  · rw [if_neg hopen] at hrule
    by_cases hfit : Cors.AllFit s.allowOrigins
    · rw [if_neg (not_not_intro hfit)] at hrule
      by_cases hstar : "*" ∈ Cors.origins s.allowOrigins
      · rw [if_pos hstar] at hrule
        simp [hbad _ hrule, SetupError.ofCors, hopen, hfit, hstar]
      · rw [if_neg hstar] at hrule
        obtain ⟨site, hsite⟩ := hgood _ hrule
        simp [hsite, hopen, hfit, hstar]
    · rw [if_pos hfit] at hrule
      simp [hbad _ hrule, SetupError.ofCors, hopen, hfit]

/-! ## Three lists -/

/-- Settings that pass the check, with these origins. -/
def admitting (origins : String) : Settings where
  app := ⟨"phrasebook", "1.0.0"⟩
  logging := ⟨"info", none, true, 1⟩
  http := ⟨8080, false⟩
  grpc := ⟨false, 8081⟩
  amqp := ⟨false, ""⟩
  nats := ⟨false, ""⟩
  redis := ⟨false, 60⟩
  postgres := ⟨32, 1, 600, 1800, 30, false⟩
  rateLimit := ⟨100, 60⟩
  allowOrigins := origins
  shutdownSecs := 5
  metrics := true
  tracer := ⟨false, "", ""⟩

/-- Of settings that pass their check some make a site, some are refused and some break down. -/
theorem checked_settings_make_sites :
    let desk : Desk := .fixed (.broke .untold) (.broke .untold)
    (admitting "").check = .ok () ∧
      (∃ site, Site.ofSettings? (admitting " https://a.example ,https://b.example") desk false = .ok site) ∧
      (∃ message, Site.ofSettings? (admitting "https://é.example,*") desk false = .error (.refused message)) ∧
      (∃ p, Site.ofSettings? (admitting "https://a.example,\u00a0*") desk false = .error (.breakdown p)) := by
  intro desk
  have hcheck : ∀ origins, (admitting origins).check = .ok () := fun origins => rfl
  refine ⟨rfl, ?_, ?_, ?_⟩
  · exact (site_of_checked_settings_iff desk false (hcheck _)).1.2 (by decide +kernel)
  · exact (site_of_checked_settings_iff desk false (hcheck _)).2.1.2 (by decide +kernel)
  · exact (site_of_checked_settings_iff desk false (hcheck _)).2.2.2 (by decide +kernel)

/-- Settings that pass their check make no site if a star is listed with other origins. -/
theorem starred_list_makes_no_site :
    (admitting "https://a.example,*").check = .ok () ∧
      ¬ ∃ site, Site.ofSettings? (admitting "https://a.example,*") (.fixed (.broke .untold) (.broke .untold)) false =
        .ok site := by
  refine ⟨rfl, ?_⟩
  rintro ⟨site, hsite⟩
  cases hsite

end Site

end Http

end Phrasebook
