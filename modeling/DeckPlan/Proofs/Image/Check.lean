import DeckPlan.Image.Check
import DeckPlan.Proofs.Image.Score
import DeckPlan.Proofs.Json.Access
import DeckPlan.Proofs.Outside.Course

/-!
# The check of an image

An encrypted address is checked by one question to the server, and other ones are not checked at all
(`course_usableUrl`). `shownAfter` says what is shown then: the address that was checked, if the
answer is one about an image (`IsImageAnswer`).
-/

namespace DeckPlan.Image

open Program

/-- A server's answer that there is an image, or that does not tell what there is. -/
structure IsImageAnswer (answer : WebReply) : Prop where
  status_eq : answer.status = 200
  /-- The type of the content is not told, empty or one of images, in any letter case. -/
  isImage : ∀ type, header? answer "Content-Type" = some type →
    type = "" ∨ "image/".toList <+: Text.lower type.toList

/-- The check of an answer decides whether it is one about an image. -/
theorem isImageReply_iff {answer : WebReply} :
    isImageReply answer = true ↔ IsImageAnswer answer := by
  have hiff : IsImageAnswer answer ↔ answer.status = 200 ∧
      ∀ type, header? answer "Content-Type" = some type →
        type = "" ∨ "image/".toList <+: Text.lower type.toList :=
    ⟨fun h => ⟨h.1, h.2⟩, fun h => ⟨h.1, h.2⟩⟩
  have hempty : ∀ type : String, (Text.lowered type).isEmpty = true ↔ type = "" := fun type => by
    rw [String.isEmpty_iff, ← String.toList_eq_nil_iff, Text.toList_lowered,
      Text.lower_eq_nil_iff, String.toList_eq_nil_iff]
  rw [hiff, isImageReply, Bool.and_eq_true, decide_eq_true_iff, Bool.or_eq_true, hempty,
    List.isPrefixOf_iff_prefix, Text.toList_lowered]
  cases header? answer "Content-Type" with
  | none => simp
  | some type => simp

/-- What is shown after the question about an address. -/
def shownAfter (url : String) (fallback : Json) : Except Fault WebReply → Except Fault Json
  | .ok answer => .ok (if isImageReply answer then .str url else fallback)
  | .error fault => if fault.isWebFault then .ok fallback else .error fault

variable {url : String} {fallback : Json} {reply : Except Fault WebReply}

/-- Only a failure of the web is made up for. -/
theorem shownAfter_eq_error {fault : Fault} :
    shownAfter url fallback reply = .error fault ↔
      reply = .error fault ∧ fault.isWebFault = false := by
  cases reply with
  | ok answer => simp [shownAfter]
  | error cause =>
    rw [shownAfter]
    split
    · next hweb =>
      refine iff_of_false (fun h => nomatch h) ?_
      rintro ⟨heq, hother⟩
      obtain rfl := Except.error.inj heq
      rw [hweb] at hother
      cases hother
    · next hother =>
      refine ⟨fun heq => ?_, fun h => congrArg _ (Except.error.inj h.1)⟩
      obtain rfl := Except.error.inj heq
      exact ⟨rfl, Bool.not_eq_true _ ▸ hother⟩

/-- The address is shown after an answer about an image, and the fallback after any other answer and
any failure of the web. -/
theorem shownAfter_eq_ok {shown : Json} (h : shownAfter url fallback reply = .ok shown) :
    (∃ answer, reply = .ok answer ∧ IsImageAnswer answer ∧ shown = .str url) ∨
      (∀ answer, reply = .ok answer → ¬ IsImageAnswer answer) ∧ shown = fallback := by
  cases reply with
  | error fault =>
    rw [shownAfter] at h
    split at h
    · exact .inr ⟨fun _ heq => (nomatch heq), (Except.ok.inj h).symm⟩
    · cases h
  | ok answer =>
    rw [shownAfter] at h
    split at h
    · next himage => exact .inl ⟨answer, rfl, isImageReply_iff.1 himage, (Except.ok.inj h).symm⟩
    · next himage =>
      refine .inr ⟨fun other heq => ?_, (Except.ok.inj h).symm⟩
      obtain rfl := Except.ok.inj heq
      exact mt isImageReply_iff.2 himage

/-- An encrypted address is checked by one question, and any other one by none. -/
theorem course_usableUrl {events : List Event} {outcome : Except Fault Json}
    (h : (usableUrl (.str url) fallback).Course events outcome) :
    (isHttps url = false ∧ events = [] ∧ outcome = .ok fallback) ∨
      isHttps url = true ∧ ∃ reply, events = [⟨.call (.webHead url headTimeout), reply⟩] ∧
        outcome = shownAfter url fallback reply := by
  rw [usableUrl, givenText_str] at h
  dsimp only [Program.ofExcept, bind_eq, Program.bind] at h
  split at h
  · next hsecure =>
    obtain ⟨reply, first, last, rfl, hcall, hend⟩ := trace_attempt_bind.1 h
    obtain rfl := course_call.1 hcall
    refine .inr ⟨hsecure, reply, ?_⟩
    -- Failures of the web are recovered from, and all other ones go on.
    cases reply with
    | ok answer =>
      obtain ⟨rfl, rfl⟩ := hend
      exact ⟨rfl, rfl⟩
    | error fault =>
      dsimp only at hend
      split at hend
      · next hweb =>
        obtain ⟨rfl, rfl⟩ := hend
        exact ⟨rfl, (if_pos hweb).symm⟩
      · next hother =>
        obtain ⟨rfl, rfl⟩ := hend
        exact ⟨rfl, (if_neg hother).symm⟩
  · next hplain => exact .inl ⟨Bool.eq_false_iff.2 hplain, h⟩

end DeckPlan.Image
