import ChatCommands.Proofs.Dispatch.Mediation
import ChatCommands.Proofs.Dispatch.Revision
import ChatCommands.Proofs.Text.Words
import ChatCommands.Registry.Basic

/-!
# Dispatching what a message says

A registry reads the text of a message once: it takes off the lead of the guild, a single time, and
cuts the rest into words.  From then on the text plays no part.  What a message does is what its
words do among the roots, however they are spaced; a text without the lead does nothing.

## Main definitions

* `Message.saying` : a message with another text.
* `GuildConfig.leadText` : what every message of a guild starts with.

## Main results

* `Registry.dispatch_of_lead`, `Registry.dispatch_of_not_lead` : a text with the lead, and one
  without.
* `registry_dispatches_words` : a registry dispatches the words of a text.
-/

namespace ChatCommands

/-- A message with another text. -/
def Message.saying (m : Message) (s : String) : Message :=
  { m with content := .text s }

/-- What every message of a guild starts with, if only the empty text. -/
def GuildConfig.leadText (config : GuildConfig) : String :=
  config.lead.getD ""

namespace Registry

/-! ### The lead -/

section Lead

variable {config : GuildConfig}

theorem isPrefixOf_toList_append (lead s : String) :
    lead.toList.isPrefixOf (lead ++ s).toList = true := by
  rw [List.isPrefixOf_iff_prefix, String.toList_append]
  exact List.prefix_append _ _

theorem drop_toList_append (lead s : String) : (lead ++ s).toList.drop lead.length = s.toList := by
  rw [String.toList_append, ← String.length_toList, List.drop_left]

/-- The lead is taken off once, whatever follows on it. -/
theorem afterLead_leadText_append (s : String) :
    afterLead config (.text (config.leadText ++ s)) = .ok (some (.text s)) := by
  unfold afterLead GuildConfig.leadText
  cases config.lead with
  | none => simp only [Option.getD_none, String.empty_append]
  | some lead =>
    simp only [Option.getD_some, isPrefixOf_toList_append, drop_toList_append, String.ofList_toList,
      if_true]

theorem afterLead_of_not_isPrefix {lead s : String} (hlead : config.lead = some lead)
    (hs : ¬ lead.toList <+: s.toList) : afterLead config (.text s) = .ok none := by
  simp only [afterLead, hlead]
  rw [if_neg fun h => hs (List.isPrefixOf_iff_prefix.mp h)]

end Lead

/-! ### Dispatch -/

variable (E : Engine) (r : Registry) (m : Message) (config : GuildConfig) (l : Locale)

/-- A text with the lead is dispatched by the words that follow on the lead. -/
theorem dispatch_of_lead (s : String) :
    r.dispatch E (m.saying (config.leadText ++ s)) config l =
      ChatCommands.dispatch E (m.saying (config.leadText ++ s)) config l
        (.list ((Text.words s).map Value.text)) r.siblings := by
  have hcontent : (m.saying (config.leadText ++ s)).content = .text (config.leadText ++ s) := rfl
  unfold dispatch
  rw [hcontent, afterLead_leadText_append]
  rfl

/-- A text without the lead does nothing. -/
theorem dispatch_of_not_lead {lead s : String} (hlead : config.lead = some lead)
    (hs : ¬ lead.toList <+: s.toList) :
    r.dispatch E (m.saying s) config l = ⟨[], .ok false⟩ := by
  have hcontent : (m.saying s).content = .text s := rfl
  unfold dispatch
  rw [hcontent, afterLead_of_not_isPrefix hlead hs]
  rfl

end Registry

/-- A registry dispatches the words of a text.  However words are spaced, they are what the text is
cut into, and behind the lead of the guild the text is dispatched as its words are among the roots;
callables that do not look at the text make it the same for every other text.  A text without the
lead does nothing.  There is no text besides, as every text is spaced. -/
theorem registry_dispatches_words (E : Engine) (r : Registry) (m : Message) (config : GuildConfig)
    (l : Locale) :
    (∀ front pieces, Text.IsSpacing front pieces →
      tokenize (.text (Text.spaced front pieces)) = .ok (pieces.map Prod.fst) ∧
      r.dispatch E (m.saying (config.leadText ++ Text.spaced front pieces)) config l =
        dispatch E (m.saying (config.leadText ++ Text.spaced front pieces)) config l
          (.list (pieces.map fun piece => .text piece.1)) r.siblings ∧
      (AreIndifferent E m (m.saying (config.leadText ++ Text.spaced front pieces)) config config
          r.siblings →
        r.dispatch E (m.saying (config.leadText ++ Text.spaced front pieces)) config l =
          dispatch E m config l (.list (pieces.map fun piece => .text piece.1)) r.siblings)) ∧
    (∀ lead s, config.lead = some lead → ¬ lead.toList <+: s.toList →
      r.dispatch E (m.saying s) config l = ⟨[], .ok false⟩) ∧
    ∀ s, ∃ front pieces, Text.IsSpacing front pieces ∧ Text.spaced front pieces = s := by
  refine ⟨fun front pieces hspacing => ?_, fun lead s => r.dispatch_of_not_lead E m config l,
    Text.exists_isSpacing⟩
  have hwords : Text.words (Text.spaced front pieces) = pieces.map Prod.fst :=
    Text.words_spaced hspacing
  have hdispatch := r.dispatch_of_lead E m config l (Text.spaced front pieces)
  rw [hwords, List.map_map] at hdispatch
  refine ⟨by rw [tokenize, hwords], hdispatch, fun hindifferent => ?_⟩
  rw [hdispatch]
  exact hindifferent.dispatch_eq l (p := fun _ => True) (fun _ _ _ _ => rfl)
    fun _ _ => trivial

theorem isSpacing_moderation :
    Text.IsSpacing " " [("mod", "\t"), ("k", "\u3000 "), ("ann", "")] := by
  have hann : Text.IsSpacing "\u3000 " [("ann", "")] :=
    .cons (by decide) (by decide) (.nil (by decide)) nofun
  have hk : Text.IsSpacing "\t" [("k", "\u3000 "), ("ann", "")] :=
    .cons (by decide) (by decide) hann fun _ => by decide
  exact .cons (by decide) (by decide) hk fun _ => by decide

/-- With a lead that ends with a blank, the moderator's `mod k ann` is dispatched however it is
spaced, and without the lead it is not. -/
theorem registry_dispatches_words_moderation :
    Text.IsSpacing " " [("mod", "\t"), ("k", "\u3000 "), ("ann", "")] ∧
    tokenize (.text " mod\tk\u3000 ann") = .ok ["mod", "k", "ann"] ∧
    Registry.dispatch scripted ⟨[moderation]⟩ (moderator.saying "!  mod\tk\u3000 ann")
        ⟨true, some "! ", "en"⟩ silent =
      dispatch scripted moderator ⟨true, some "! ", "en"⟩ silent
        (.list [.text "mod", .text "k", .text "ann"]) (.tuple [.command moderation]) ∧
    Registry.dispatch scripted ⟨[moderation]⟩ (moderator.saying "!mod k ann")
      ⟨true, some "! ", "en"⟩ silent = ⟨[], .ok false⟩ := by
  obtain ⟨hspaced, hother, -⟩ := registry_dispatches_words scripted ⟨[moderation]⟩ moderator
    ⟨true, some "! ", "en"⟩ silent
  obtain ⟨htokens, -, hwords⟩ := hspaced _ _ isSpacing_moderation
  refine ⟨isSpacing_moderation, htokens, hwords (areIndifferent_performWith _ _ _ _ _ _ _), ?_⟩
  exact hother "! " "!mod k ann" rfl (by decide)

end ChatCommands
