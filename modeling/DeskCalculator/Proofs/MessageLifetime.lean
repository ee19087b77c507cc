import DeskCalculator.Proofs.Damping
import DeskCalculator.Proofs.PrintedText
import DeskCalculator.Proofs.SafeRuns

/-! The pictures of a message. The window counts down from the duration of the message announced last,
whatever was announced or painted before, and paints this message in as many pictures as it lasts. It is
at full strength until twenty pictures are left, and has faded away in the last one. -/

namespace DeskCalculator

/-! ### Strengths -/

namespace Feedback

theorem fade_eq_twentieths (remaining : Nat) :
    fade remaining = Float.ofNat (min remaining 20) / 20 := by
  unfold fade
  split
  · rename_i many
    have full : (1 : Float) = Float.ofNat 20 / 20 := by decide +kernel
    rw [Nat.min_eq_right many]
    exact full
  · rename_i few
    rw [Nat.min_eq_left (Nat.le_of_not_le few)]

theorem fade_le_fade {less more : Nat} (fewer : less ≤ more) : fade less ≤ fade more := by
  have checked : ∀ most < 21, ∀ least < most + 1,
      Float.ofNat least / 20 ≤ Float.ofNat most / 20 := by
    decide +kernel
  rw [fade_eq_twentieths, fade_eq_twentieths]
  exact checked _ (by omega) _ (by omega)

theorem fade_zero : fade 0 = 0 := by
  decide +kernel

theorem fade_nonneg (remaining : Nat) : 0 ≤ fade remaining :=
  fade_zero ▸ fade_le_fade (Nat.zero_le remaining)

theorem fade_le_one (remaining : Nat) : fade remaining ≤ 1 := by
  have full : fade (remaining + 20) = 1 := if_pos (Nat.le_add_left 20 remaining)
  exact full ▸ fade_le_fade (Nat.le_add_right remaining 20)

theorem fade_eq_zero_iff (remaining : Nat) : fade remaining = 0 ↔ remaining = 0 := by
  have checked : ∀ count < 21, Float.ofNat count / 20 = 0 ↔ count = 0 := by
    decide +kernel
  rw [fade_eq_twentieths, checked _ (by omega)]
  omega

end Feedback

/-! ### Messages and pictures in any order -/

inductive MessageStep where
  | announce (message : String) (color : Color) (duration : Option Int)
  | paint
deriving DecidableEq, Repr

namespace MessageStep

def duration? : MessageStep → Option Int
  | announce _ _ duration => duration
  | paint => none

/-- Steps without an announcement are nothing but pictures. -/
theorem exists_last_announcement (steps : List MessageStep) :
    (∃ pictures, steps = List.replicate pictures paint) ∨
      ∃ earlier message color duration pictures, steps =
        earlier ++ announce message color duration :: List.replicate pictures paint := by
  induction steps using List.reverseRecOn with
  | nil => exact .inl ⟨0, rfl⟩
  | append_singleton steps step hypothesis =>
      cases step with
      | announce message color duration => exact .inr ⟨steps, message, color, duration, 0, rfl⟩
      | paint =>
          rcases hypothesis with ⟨pictures, rfl⟩ | ⟨earlier, message, color, duration, pictures, rfl⟩
          · exact .inl ⟨pictures + 1, List.replicate_succ'.symm⟩
          · refine .inr ⟨earlier, message, color, duration, pictures + 1, ?_⟩
            rw [List.replicate_succ', List.append_assoc, List.cons_append]

end MessageStep

namespace Screen

def heed (screen : Screen) : MessageStep → Screen
  | .announce message color duration => screen.announce message color duration
  | .paint => screen.drawFeedback.1

def heedAll (screen : Screen) (steps : List MessageStep) : Screen :=
  steps.foldl heed screen

def withTimer (screen : Screen) (timer : Int) : Screen :=
  { screen with feedback := { screen.feedback with timer := timer } }

theorem drawFeedback_of_pending {screen : Screen} (pending : 0 < screen.feedback.timer) :
    screen.drawFeedback = (screen.withTimer (screen.feedback.timer - 1),
      screen.feedback.paint screen.height (screen.feedback.timer - 1).toNat) := by
  have drawn : screen.feedback.draw screen.height =
      ({ screen.feedback with timer := screen.feedback.timer - 1 },
        screen.feedback.paint screen.height (screen.feedback.timer - 1).toNat) := if_pos pending
  rw [drawFeedback, drawn]
  rfl

theorem drawFeedback_of_finished {screen : Screen} (finished : screen.feedback.timer ≤ 0) :
    screen.drawFeedback = (screen, .ok []) := by
  have drawn : screen.feedback.draw screen.height = (screen.feedback, .ok []) :=
    if_neg (Int.not_lt.mpr finished)
  rw [drawFeedback, drawn]

/-- Pictures count down to nothing, and change nothing once there. -/
theorem heedAll_paint (screen : Screen) (pictures : Nat) :
    screen.heedAll (List.replicate pictures .paint) =
      screen.withTimer (max (screen.feedback.timer - pictures) (min screen.feedback.timer 0)) := by
  induction pictures with
  | zero =>
      have same : max (screen.feedback.timer - (0 : Nat)) (min screen.feedback.timer 0) =
          screen.feedback.timer := by omega
      rw [same]
      rfl
  | succ pictures hypothesis =>
      rw [List.replicate_succ', heedAll, List.foldl_append]
      change ((screen.heedAll (List.replicate pictures .paint)).drawFeedback).1 = _
      rw [hypothesis]
      by_cases pending : 0 < max (screen.feedback.timer - pictures) (min screen.feedback.timer 0)
      · rw [drawFeedback_of_pending pending]
        change screen.withTimer
          (max (screen.feedback.timer - pictures) (min screen.feedback.timer 0) - 1) = _
        congr 1
        omega
      · rw [drawFeedback_of_finished (Int.not_lt.mp pending)]
        change screen.withTimer _ = _
        congr 1
        omega

theorem feedbackDuration_heedAll (screen : Screen) (steps : List MessageStep) :
    (screen.heedAll steps).feedbackDuration = screen.feedbackDuration := by
  induction steps generalizing screen with
  | nil => rfl
  | cons step steps hypothesis =>
      rw [heedAll, List.foldl_cons]
      refine (hypothesis (screen.heed step)).trans ?_
      cases step with
      | announce message color duration => rfl
      | paint => rfl

end Screen

/-! ### The message announced last -/

structure Announced where
  message : String
  color : Color
  duration : Int
  pictures : Nat

namespace Announced

/-- The next picture is one of those that the message lasts. -/
def Pending (last : Announced) : Prop :=
  last.pictures < max last.duration 0

instance (last : Announced) : Decidable last.Pending :=
  inferInstanceAs (Decidable (_ < _))

def timer (last : Announced) : Int :=
  max (last.duration - last.pictures) (min last.duration 0)

def remaining (last : Announced) : Nat :=
  (last.duration - last.pictures - 1).toNat

def strength (last : Announced) : Float :=
  Feedback.fade last.remaining

def later (last : Announced) (more : Nat) : Announced :=
  { last with pictures := last.pictures + more }

structure Fades (last : Announced) : Prop where
  twentieths : last.strength = Float.ofNat (min last.remaining 20) / 20
  nonneg : 0 ≤ last.strength
  le_one : last.strength ≤ 1
  falls : ∀ more, (last.later more).strength ≤ last.strength
  gone : last.Pending → (last.strength = 0 ↔ ¬ (last.later 1).Pending)

theorem strength_of_counted (last : Announced) (counted : last.duration.natAbs < 2 ^ 53) :
    Feedback.strength last.remaining = .ok last.strength := by
  have least : 2 ^ 53 ≤ Binary64.overflow := by decide +kernel
  have held : (Binary64.ofInt? last.remaining).isSome = true := by
    rw [Binary64.ofInt?_isSome_iff, Int.natAbs_natCast]
    refine Nat.lt_of_lt_of_le ?_ least
    unfold remaining
    omega
  obtain ⟨double, counts⟩ := Option.isSome_iff_exists.mp held
  exact Feedback.strength_of_ofInt? counts

theorem fades (last : Announced) : last.Fades where
  twentieths := Feedback.fade_eq_twentieths _
  nonneg := Feedback.fade_nonneg _
  le_one := Feedback.fade_le_one _
  falls more := by
    apply Feedback.fade_le_fade
    simp only [remaining, later]
    omega
  gone pending := by
    rw [strength, Feedback.fade_eq_zero_iff]
    simp only [Pending, remaining, later] at pending ⊢
    omega

end Announced

namespace Screen

def PaintsText (screen : Screen) : Prop :=
  ∃ calls, screen.drawFeedback.2 = .ok calls ∧ DrawCall.texts calls ≠ []

/-- How a screen paints the message that was announced last. There are no shades of a colour that doubles
cannot hold. -/
structure Shows (screen : Screen) (last : Announced) : Prop where
  timer : screen.feedback.timer = last.timer
  least : min last.duration 0 ≤ screen.feedback.timer
  falls : screen.drawFeedback.1.feedback.timer ≤ screen.feedback.timer
  rests : ¬ last.Pending →
    screen.feedback.timer = min last.duration 0 ∧ screen.drawFeedback = (screen, .ok [])
  text : screen.PaintsText ↔ last.Pending ∧ last.color.Representable
  painted : last.Pending → last.color.Representable →
    ∃ shades calls, Feedback.fadedColor last.strength last.color = .ok shades ∧
      calls = screen.feedback.calls screen.height last.strength shades ∧
      DrawCall.texts calls = [plainText last.message] ∧ screen.drawFeedback.2 = .ok calls
  refused : last.Pending → ¬ last.color.Representable → screen.drawFeedback.2 = .error .tooLarge

section
variable {screen : Screen} {last : Announced}
variable (feedback : screen.feedback = ⟨last.message, last.color, last.timer⟩)
include feedback

theorem pending_iff : last.Pending ↔ 0 < screen.feedback.timer := by
  rw [feedback]
  dsimp only [Announced.Pending, Announced.timer]
  omega

theorem rests_of_not_pending (finished : ¬ last.Pending) :
    screen.feedback.timer = min last.duration 0 ∧ screen.drawFeedback = (screen, .ok []) := by
  have none : screen.feedback.timer ≤ 0 :=
    Int.not_lt.mp fun left => finished ((pending_iff feedback).mpr left)
  refine ⟨?_, drawFeedback_of_finished none⟩
  rw [feedback]
  dsimp only [Announced.Pending, Announced.timer] at finished ⊢
  omega

theorem timer_drawFeedback_le : screen.drawFeedback.1.feedback.timer ≤ screen.feedback.timer := by
  by_cases awaited : last.Pending
  · rw [drawFeedback_of_pending ((pending_iff feedback).mp awaited)]
    exact Int.sub_le_self _ (by decide)
  · rw [(rests_of_not_pending feedback awaited).2]

variable (counted : last.duration.natAbs < 2 ^ 53)
include counted

theorem drawFeedback_of_counted (awaited : last.Pending) :
    screen.drawFeedback.2 = (Feedback.fadedColor last.strength last.color).map
      (screen.feedback.calls screen.height last.strength) := by
  have left : (screen.feedback.timer - 1).toNat = last.remaining := by
    dsimp only [Announced.Pending] at awaited
    rw [feedback]
    dsimp only [Announced.remaining, Announced.timer]
    omega
  rw [drawFeedback_of_pending ((pending_iff feedback).mp awaited), left]
  dsimp only
  rw [Feedback.paint, last.strength_of_counted counted, Except.bind, feedback]

theorem painted_of_representable (awaited : last.Pending) (held : last.color.Representable) :
    ∃ shades calls, Feedback.fadedColor last.strength last.color = .ok shades ∧
      calls = screen.feedback.calls screen.height last.strength shades ∧
      DrawCall.texts calls = [plainText last.message] ∧ screen.drawFeedback.2 = .ok calls := by
  obtain ⟨shades, faded⟩ := Feedback.fadedColor_of_representable last.remaining held
  refine ⟨shades, _, faded, rfl, ?_, ?_⟩
  · rw [feedback]
    rfl
  · rw [drawFeedback_of_counted feedback counted awaited, Announced.strength, faded]
    rfl

theorem refused_of_not_representable (awaited : last.Pending) (large : ¬ last.color.Representable) :
    screen.drawFeedback.2 = .error .tooLarge := by
  rw [drawFeedback_of_counted feedback counted awaited, Announced.strength,
    Feedback.fadedColor_of_not_representable last.remaining large]
  rfl

theorem paintsText_iff : screen.PaintsText ↔ last.Pending ∧ last.color.Representable := by
  constructor
  · rintro ⟨calls, painted, some⟩
    by_cases awaited : last.Pending
    · refine ⟨awaited, ?_⟩
      by_contra large
      rw [refused_of_not_representable feedback counted awaited large] at painted
      cases painted
    · rw [(rests_of_not_pending feedback awaited).2] at painted
      cases painted
      exact absurd rfl some
  · rintro ⟨awaited, held⟩
    obtain ⟨shades, calls, _, _, texts, painted⟩ :=
      painted_of_representable feedback counted awaited held
    refine ⟨calls, painted, ?_⟩
    rw [texts]
    exact List.cons_ne_nil _ _

theorem shows_of_feedback : screen.Shows last where
  timer := by rw [feedback]
  least := by
    rw [feedback]
    exact le_max_right _ _
  falls := timer_drawFeedback_le feedback
  rests := rests_of_not_pending feedback
  text := paintsText_iff feedback counted
  painted := painted_of_representable feedback counted
  refused := refused_of_not_representable feedback counted

end

/-- What was announced and painted before has left nothing. -/
theorem feedback_heedAll (screen : Screen) (earlier : List MessageStep) (message : String)
    (color : Color) (duration? : Option Int) (pictures : Nat) :
    (screen.heedAll (earlier ++ .announce message color duration? ::
      List.replicate pictures .paint)).feedback = ⟨message, color,
        (Announced.mk message color (duration?.getD screen.feedbackDuration) pictures).timer⟩ := by
  have announced : screen.heedAll (earlier ++ .announce message color duration? ::
      List.replicate pictures .paint) = ((screen.heedAll earlier).announce message color
        duration?).heedAll (List.replicate pictures .paint) := List.foldl_append
  rw [announced, heedAll_paint, ← feedbackDuration_heedAll screen earlier]
  rfl

/-- Whatever is announced and painted: nothing is painted before a message has been announced. Then the
message announced last is painted in as many pictures as it lasts, weaker in the last twenty of them and with
no strength left in the very last. -/
theorem message_lasts (width height : Int) (settings : Settings) (steps : List MessageStep)
    (configured : settings.feedbackDuration.natAbs < 2 ^ 53)
    (given : ∀ step ∈ steps, ∀ duration ∈ step.duration?, duration.natAbs < 2 ^ 53) :
    let screen := (start width height settings).heedAll steps
    (∃ pictures, steps = List.replicate pictures .paint ∧
      screen = start width height settings ∧ screen.drawFeedback = (screen, .ok [])) ∨
    ∃ earlier message color duration? pictures,
      steps = earlier ++ .announce message color duration? :: List.replicate pictures .paint ∧
      let last : Announced :=
        ⟨message, color, duration?.getD settings.feedbackDuration, pictures⟩
      screen.Shows last ∧ last.Fades := by
  intro screen
  rcases MessageStep.exists_last_announcement steps with
    ⟨pictures, rfl⟩ | ⟨earlier, message, color, duration?, pictures, rfl⟩
  · left
    have same : screen = start width height settings := by
      refine (heedAll_paint _ pictures).trans ?_
      have stays : max ((0 : Int) - pictures) (min 0 0) = 0 := by omega
      change (start width height settings).withTimer (max (0 - pictures) (min 0 0)) = _
      rw [stays]
      rfl
    refine ⟨pictures, rfl, same, drawFeedback_of_finished ?_⟩
    rw [same]
    exact Int.le_refl 0
  · right
    refine ⟨earlier, message, color, duration?, pictures, rfl, ?_⟩
    intro last
    refine ⟨shows_of_feedback (feedback_heedAll _ earlier message color duration? pictures) ?_,
      last.fades⟩
    cases duration? with
    | none => exact configured
    | some duration =>
        exact given _ (List.mem_append_right earlier List.mem_cons_self) duration rfl

theorem message_lasts_two_pictures :
    let steps : List MessageStep := [.announce "OK 5" Feedback.green (some 2), .paint]
    let screen := (start 640 480 {}).heedAll steps
    (({} : Settings).feedbackDuration.natAbs < 2 ^ 53 ∧
      ∀ step ∈ steps, ∀ duration ∈ step.duration?, duration.natAbs < 2 ^ 53) ∧
      screen.Shows ⟨"OK 5", Feedback.green, 2, 1⟩ ∧ screen.PaintsText := by
  intro steps screen
  have configured : ({} : Settings).feedbackDuration.natAbs < 2 ^ 53 := by decide
  have given : ∀ step ∈ steps, ∀ duration ∈ step.duration?, duration.natAbs < 2 ^ 53 := by
    decide
  refine ⟨⟨configured, given⟩, ?_⟩
  have held : Feedback.green.Representable := by decide +kernel
  rcases message_lasts 640 480 {} steps configured given with
    ⟨pictures, same, _⟩ | ⟨earlier, message, color, duration?, pictures, same, shows, _⟩
  · have member : MessageStep.announce "OK 5" Feedback.green (some 2) ∈
        List.replicate pictures .paint := same ▸ List.mem_cons_self
    cases List.eq_of_mem_replicate member
  · cases earlier with
    | nil =>
        rw [List.nil_append, List.cons.injEq] at same
        obtain ⟨announced, painted⟩ := same
        cases announced
        obtain rfl : pictures = 1 := by
          have length := congrArg List.length painted
          rwa [List.length_replicate, eq_comm] at length
        exact ⟨shows, shows.text.mpr ⟨by decide, held⟩⟩
    | cons first earlier =>
        have second := List.cons.inj same
        have member : MessageStep.announce message color duration? ∈ [MessageStep.paint] :=
          second.2 ▸ List.mem_append_right earlier List.mem_cons_self
        cases List.mem_singleton.mp member

end Screen
end DeskCalculator
