import Mathlib
import PayloadSchema.Proofs.Calendar.DateTime

/-!
Days and moments that were read from a text are written in a form that reads as the same day or
moment. Many texts say the same; writing what was read leads to one of them and stays there.
-/
namespace PayloadSchema.Calendar
open Outcome

section
variable {α : Type} {parse : String → Except Fault α} {text : α → String}

def ReadsBack (parse : String → Except Fault α) (text : α → String) : Prop :=
  ∀ s a, parse s = .ok a → parse (text a) = .ok a

def rewrite (parse : String → Except Fault α) (text : α → String) (s : String) :
    Except Fault String :=
  (parse s).map text

theorem ReadsBack.rewrite_eq (h : ReadsBack parse text) {s u : String}
    (hu : rewrite parse text s = .ok u) : rewrite parse text u = .ok u := by
  obtain ⟨a, ha, rfl⟩ := map_eq_ok.1 hu
  exact map_eq_ok.2 ⟨a, h s a ha, rfl⟩

end

/-- Every day that can be held has a text that reads back, whether it was read or not. -/
theorem readsBack_date : ReadsBack Date.parse Date.text := fun _ d _ => d.parse_text

/-- Moments that were read have a year of four digits and an offset of whole minutes, which is what
their text can say. -/
theorem readsBack_dateTime : ReadsBack DateTime.parse DateTime.text :=
  fun _ _ h => DateTime.parse_text (DateTime.read_writable h)

/-- The written form of a moment that was read gives the same moment again, with its offset, its
nanoseconds and its leap second, and that of a day gives the same day; so writing a text anew
changes it once at most. -/
theorem written_form_reads_back :
    (∀ (s : String) (t : DateTime), DateTime.parse s = .ok t → DateTime.parse t.text = .ok t) ∧
    (∀ (s : String) (d : Date), Date.parse s = .ok d → Date.parse d.text = .ok d) ∧
    (∀ s u : String, rewrite DateTime.parse DateTime.text s = .ok u →
      rewrite DateTime.parse DateTime.text u = .ok u) ∧
    ∀ s u : String, rewrite Date.parse Date.text s = .ok u →
      rewrite Date.parse Date.text u = .ok u :=
  ⟨readsBack_dateTime, readsBack_date, fun _ _ => readsBack_dateTime.rewrite_eq,
    fun _ _ => readsBack_date.rewrite_eq⟩

def leapMoment : DateTime where
  date := ⟨1990, 12, 31, by decide⟩
  hour := 23
  minute := 59
  second := 59
  nano := 1120000000
  offset := -27000
  valid := by decide

def earlyDay : Date := ⟨-44, 3, 15, by decide⟩

/-- Digits after the ninth, another minus, a small `t`, blanks and short fields are gone in the
written form. -/
theorem leapMoment_reads_back :
    DateTime.parse "1990-12-31t23:59:60.1200000009−07:30" = .ok leapMoment ∧
      leapMoment.text = "1990-12-31T23:59:60.120-07:30" ∧
      DateTime.parse leapMoment.text = .ok leapMoment ∧
      Date.parse " -44- 3-15" = .ok earlyDay ∧ earlyDay.text = "-0044-03-15" ∧
      Date.parse earlyDay.text = .ok earlyDay := by
  have hmoment : DateTime.parse "1990-12-31t23:59:60.1200000009−07:30" = .ok leapMoment := rfl
  have hday : Date.parse " -44- 3-15" = .ok earlyDay := rfl
  obtain ⟨hmoments, hdays, -, -⟩ := written_form_reads_back
  exact ⟨hmoment, by cbv, hmoments _ _ hmoment, hday, by cbv, hdays _ _ hday⟩

end PayloadSchema.Calendar
