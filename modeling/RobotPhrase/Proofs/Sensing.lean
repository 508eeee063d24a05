import RobotPhrase.Proofs.Numeral
import RobotPhrase.Proofs.Rules
import RobotPhrase.Proofs.Text

/-!
# The rule for sensors

The rule waits for the first colour of the sentence, or else it compares the reading of a sensor with the first number
(`watched?_cases`).  The text of such a comparison is made of one of five readings, a relation and a number, and so it
lacks every character that none of these has (`not_mem_reading`).
-/

namespace RobotPhrase

open Text Grammar

theorem watched?_cases {s : Sentence} {w : Watch} (h : watched? s = some w) :
    (∃ t, s.first? .color = some t ∧ w = .colorMissing (t.text.map Char.toUpper)) ∨
      (s.first? .color = none ∧ ∃ t n, s.first? .sensor = some t ∧ s.firstNumeral? = some n ∧
        ∃ relation, w = .reading (sensorReading t.text) relation (wholeOr n 50)) := by
  unfold watched? at h
  split at h
  · rename_i t ht
    exact .inl ⟨t, ht, (Option.some.inj h).symm⟩
  · rename_i hnone
    simp only [Option.bind_eq_bind, Option.bind_eq_some_iff] at h
    obtain ⟨t, ht, n, hn, he⟩ := h
    exact .inr ⟨hnone, t, n, ht, hn, _, (Option.some.inj he).symm⟩

/-! ### The text of a comparison -/

/-- The readings that there are. -/
def sensorReadings : List String :=
  ["color_sensor.reflection()", "distance_sensor.distance()", "force_sensor.force()", "hub.imu.heading()",
    "sensor.reflection()"]

theorem sensorReading_mem (sensor : String) : sensorReading sensor ∈ sensorReadings := by
  unfold sensorReading
  repeat' split
  all_goals decide

theorem not_mem_reading {c : Char} (hreading : ∀ r ∈ sensorReadings, c ∉ r.toList) (hsign : c ∉ " <>=-".toList)
    (hdigit : c.isDigit = false) (sensor : String) (relation : Relation) (value : Int) :
    c ∉ (Watch.reading (sensorReading sensor) relation value).text.toList := by
  have hblank : c ∉ " ".toList := fun h => hsign (List.mem_append_left "<>=-".toList h)
  have hrelation : c ∉ relation.symbol.toList := by
    have hsigns : relation.symbol.toList ⊆ " <>=-".toList := by cases relation <;> decide
    exact fun h => hsign (hsigns h)
  have hvalue : c ∉ (toString value).toList := by
    refine Numeral.not_mem_toString ?_ hdigit value
    rintro rfl
    exact hsign (by decide)
  have hleft := not_mem_append (not_mem_append (hreading _ (sensorReading_mem sensor)) hblank) hrelation
  exact not_mem_append (not_mem_append hleft hblank) hvalue

end RobotPhrase
