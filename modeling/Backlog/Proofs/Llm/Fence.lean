import Backlog.Proofs.Llm.Client
import Backlog.Proofs.Text.Split

/-! # Replies in a fence

What a reply says is what stands between its fence, or the reply itself if it starts with none, and blanks at the
ends count for nothing (`unfence_fenced`, `unfence_of_plain`). The text between may hold backticks and line breaks
of its own: the opening line ends at its first line break, and of the backticks at the end the last three are the
fence.

* `Client.completeJson_of_fence`: **a fence makes no difference** to what a reply comes to. -/

namespace Backlog.Llm

open Text

variable {α : Type} {c : Client} {q : Request} {reply : Reply} {text info w w' : String}

/-! ### Fences -/

/-- Three backticks. -/
def fence : String := "\x60\x60\x60"

/-- **A text that starts with a fence**, but for blanks. -/
def Fenced (text : String) : Prop := fence.toList <+: (trim text).toList

instance (text : String) : Decidable (Fenced text) :=
  inferInstanceAs (Decidable (fence.toList <+: (trim text).toList))

theorem toList_fence : fence.toList = ['\x60', '\x60', '\x60'] := by decide

theorem unfence_of_plain (h : ¬ Fenced text) : unfence text = trim text := by
  rw [Fenced, toList_fence, trim, String.toList_ofList] at h
  rw [unfence, trim, stripLead?_eq_none.mpr h]

/-- A text in a fence, with its opening line and blanks around it. -/
def fencedText (w info body w' : String) : String := w ++ fence ++ info ++ "\n" ++ body ++ fence ++ w'

/-- **A text in a fence says what stands between.** -/
theorem unfence_fenced (hinfo : '\n' ∉ info.toList) (hw : isBlankText w = true) (hw' : isBlankText w' = true)
    (body : String) : unfence (fencedText w info body w') = trim body := by
  have hinner : trimChars (fence.toList ++ (info.toList ++ '\n' :: (body.toList ++ fence.toList))) =
      fence.toList ++ (info.toList ++ '\n' :: (body.toList ++ fence.toList)) := by
    have hbacktick : isBlank '\x60' = false := by decide
    have hfirst : ['\x60'] <+: fence.toList := by decide
    have hlast : ['\x60'] <:+ fence.toList := by decide
    have hend : fence.toList <:+ fence.toList ++ (info.toList ++ '\n' :: (body.toList ++ fence.toList)) :=
      ⟨fence.toList ++ (info.toList ++ '\n' :: body.toList), by simp⟩
    exact trimChars_of_ends hbacktick hbacktick (hfirst.trans (List.prefix_append _ _)) (hlast.trans hend)
  have htrim : trimChars (fencedText w info body w').toList =
      fence.toList ++ (info.toList ++ '\n' :: (body.toList ++ fence.toList)) := by
    have hlist : (fencedText w info body w').toList =
        w.toList ++ (fence.toList ++ (info.toList ++ '\n' :: (body.toList ++ fence.toList))) ++ w'.toList := by
      simp [fencedText, String.toList_append]
    rw [hlist, trimChars_append (List.all_eq_true.mp hw) (List.all_eq_true.mp hw'), hinner]
  rw [unfence, htrim, toList_fence, stripLead?_append]
  dsimp only
  rw [cutFirst_append hinfo]
  dsimp only
  rw [stripTail?_append]
  rfl

/-! ### What a reply comes to -/

/-- What a reply comes to if `body` is what it says. -/
def Reply.saying (reply : Reply) (r : Json.Read α) (body : String) : Except Failure (α × Usage) :=
  ((Json.ofText r body).mapError fun fault => .unreadable fault (some reply.text)).map fun a => (a, reply.usage)

theorem Client.completeJson_of_reply (h : c.complete q = .ok reply) (r : Json.Read α) :
    c.completeJson r q = reply.saying r (unfence reply.text) := by
  rw [completeJson, h, Reply.saying]
  show (reply.read r >>= fun a => pure (a, reply.usage)) = _
  rw [Reply.read]
  cases Json.ofText r (unfence reply.text) <;> rfl

/-- A failure without the reply that it quotes. -/
def Failure.unquoted : Failure → Failure
  | unreadable fault _ => unreadable fault none
  | e => e

/-- **The same value or the same failure**, but for the reply that a failure quotes. -/
def Alike (x y : Except Failure (α × Usage)) : Prop := x.mapError Failure.unquoted = y.mapError Failure.unquoted

theorem alike_saying (text text' : String) (usage : Usage) (model : String) (r : Json.Read α) (body : String) :
    Alike (Reply.saying ⟨text', usage, model⟩ r body) (Reply.saying ⟨text, usage, model⟩ r body) := by
  rw [Alike, Reply.saying, Reply.saying]
  cases Json.ofText r body <;> rfl

/-- **A fence makes no difference.** Let a client be answered with some text in a fence, whatever stands in its opening
line and whatever blanks are around it, and another one with the text itself, which starts with no fence. Then
both get the same value, or the same failure but for the reply that it quotes. And whatever text a client is
answered with, if it starts with no fence it is read as it stands, without the blanks at its ends. -/
theorem Client.completeJson_of_fence (r : Json.Read α) (q : Request) (usage : Usage) (model : String) :
    (∀ w info body w' : String, ¬ Fenced body → '\n' ∉ info.toList → isBlankText w = true → isBlankText w' = true →
      ∀ c c' : Client, c.complete q = .ok ⟨body, usage, model⟩ →
        c'.complete q = .ok ⟨fencedText w info body w', usage, model⟩ →
          Alike (c'.completeJson r q) (c.completeJson r q)) ∧
    ∀ text : String, ¬ Fenced text → ∃ w body w', text = w ++ body ++ w' ∧
      isBlankText w = true ∧ isBlankText w' = true ∧ trim body = body ∧
        ∀ c : Client, c.complete q = .ok ⟨text, usage, model⟩ →
          c.completeJson r q = Reply.saying ⟨text, usage, model⟩ r body := by
  constructor
  · intro w info body w' hbody hinfo hw hw' c c' hc hc'
    rw [completeJson_of_reply hc, completeJson_of_reply hc', unfence_fenced hinfo hw hw', unfence_of_plain hbody]
    exact alike_saying _ _ _ _ _ _
  · intro text htext
    obtain ⟨w, w', hlist, hw, hw'⟩ := exists_trimChars text.toList
    refine ⟨String.ofList w, trim text, String.ofList w', ?_, ?_, ?_, ?_, fun c hc => ?_⟩
    · rw [trim, ← String.ofList_append, ← String.ofList_append, ← hlist, String.ofList_toList]
    · rw [isBlankText, String.toList_ofList, List.all_eq_true]
      exact hw
    · rw [isBlankText, String.toList_ofList, List.all_eq_true]
      exact hw'
    · rw [trim, trim, String.toList_ofList, trimChars_trimChars]
    · rw [completeJson_of_reply hc, unfence_of_plain htext]

/-- A client that is always answered with the same text. -/
def answering (text : String) : Client := ⟨"canned", fun _ => .ok ⟨text, ⟨3, 4⟩, "small"⟩⟩

theorem complete_answering (text : String) (q : Request) :
    (answering text).complete q = .ok ⟨text, ⟨3, 4⟩, "small"⟩ := rfl

/-- A document that is a fence itself, between quotes. -/
def quotedFence : String := "\"\x60\x60\x60\"\n"

/-- The fence between quotes is read out of a fence as it is read without one. -/
theorem Client.completeJson_of_fence_quoted :
    ¬ Fenced quotedFence ∧ '\n' ∉ "json".toList ∧ isBlankText "\t\n" = true ∧ isBlankText "\u00a0" = true ∧
      (answering quotedFence).completeJson Json.readString ⟨none, "?", 64, 0⟩ = .ok (fence, ⟨3, 4⟩) ∧
      (answering (fencedText "\t\n" "json" quotedFence "\u00a0")).completeJson Json.readString ⟨none, "?", 64, 0⟩ =
        .ok (fence, ⟨3, 4⟩) ∧
      ∃ said, trim said = said ∧ (answering quotedFence).completeJson Json.readString ⟨none, "?", 64, 0⟩ =
        Reply.saying ⟨quotedFence, ⟨3, 4⟩, "small"⟩ Json.readString said := by
  have hbody : ¬ Fenced quotedFence := by decide +kernel
  have hinfo : '\n' ∉ "json".toList := by decide
  have hw : isBlankText "\t\n" = true := by decide
  have hw' : isBlankText "\u00a0" = true := by decide
  have hbare : (answering quotedFence).completeJson Json.readString ⟨none, "?", 64, 0⟩ = .ok (fence, ⟨3, 4⟩) := by
    have htext : unfence quotedFence = "\"\x60\x60\x60\"" := by cbv
    have hdocument : Json.read "\"\x60\x60\x60\"" = ⟨.string fence, false⟩ := by cbv
    rw [completeJson_of_reply (complete_answering _ _), htext, Reply.saying, Json.ofText, hdocument]
    rfl
  obtain ⟨halike, hplain⟩ := completeJson_of_fence Json.readString ⟨none, "?", 64, 0⟩ ⟨3, 4⟩ "small"
  have hfenced := halike _ _ _ _ hbody hinfo hw hw' _ _ (complete_answering _ _) (complete_answering _ _)
  obtain ⟨_, said, _, -, -, -, htrim, hread⟩ := hplain quotedFence hbody
  refine ⟨hbody, hinfo, hw, hw', hbare, ?_, said, htrim, hread _ (complete_answering _ _)⟩
  rw [Alike, hbare] at hfenced
  exact mapError_eq_ok.mp hfenced

end Backlog.Llm
