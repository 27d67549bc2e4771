import ChatCommands.Locale.Listing
import ChatCommands.Locale.Source
import ChatCommands.Proofs.Fault.Trigger
import ChatCommands.Proofs.Locale.Lookup
import ChatCommands.Proofs.Template.Positional
import ChatCommands.Proofs.Text.Dotted
import ChatCommands.Proofs.Value.Kind
import Mathlib.Data.Set.List

/-!
# Locales that can reply

Replies to faults are filled-in templates of the common section.  Which arguments they are filled
in with is known in advance, so a locale can be said to format its replies without naming a fault.
The common section is read from the root of the data: a view formats what the whole locale does.

## Main definitions

* `Locale.commonText`, `Locale.nameIn` : the texts that keys stand for, with what stands in for a
  text that is missing.
* `Locale.Fills` : a template of the common section can be filled in.
* `Locale.Formats` : the templates of all replies can.

## Main results

* `Locale.formats_english` : the English templates can.
* `Locale.outcome_listing` : what a listing has, key by key.
-/

namespace ChatCommands.Locale

/-- The text that a key of the common section stands for: its dotted path when it has none. -/
def commonText (l : Locale) (key : String) : String :=
  (l.common? key).getD (Text.dot (commonPath key))

/-- The name of a key in the section at a path: the key itself when it has no name or an empty
one. -/
def nameIn (l : Locale) (path key : String) : String :=
  ((l.textAt? (Text.dotted path ++ Text.dotted key)).filter fun name => !name.isEmpty).getD key

/-- The template of a key of the common section can be filled in with some arguments. -/
def Fills (l : Locale) (key : String) (args : List Value) : Prop :=
  ∃ text, (l.formatCommon key args).outcome = .ok text

/-- The templates of the replies can be filled in with what replies are filled in with: listed
permissions and the channel, the name of an argument and its position, and listed types. -/
structure Formats (l : Locale) (channel : Value) : Prop where
  guild : ∀ listed : String, l.Fills "no_guild_permissions" [.text listed]
  channel : ∀ listed : String, l.Fills "no_channel_permissions" [.text listed, channel]
  missing : ∀ (name : String) (position : Nat),
    l.Fills "missing_argument" [.text name, .int position]
  invalid : ∀ (name : String) (position : Nat) (types : String),
    l.Fills "invalid_argument_type" [.text name, .int position, .text types]

variable {l : Locale}

theorem outcome_formatCommon (l : Locale) (key : String) (args : List Value) :
    (l.formatCommon key args).outcome =
      (Template.format (l.commonText key) args).mapError .template := by
  have hcommon : (l.common key).outcome = .ok (l.commonText key) := l.outcome_textAt _
  rw [formatCommon, Run.bind_of_ok hcommon]
  rfl

theorem fills_iff {key : String} {args : List Value} :
    l.Fills key args ↔ ∃ text, Template.format (l.commonText key) args = .ok text := by
  rw [Fills, outcome_formatCommon]
  cases Template.format (l.commonText key) args with
  | error e => exact ⟨nofun, nofun⟩
  | ok text => exact ⟨fun _ => ⟨text, rfl⟩, fun _ => ⟨text, rfl⟩⟩

/-! ### Views of one locale -/

theorem formatCommon_eq_of_data_eq {l' : Locale} (h : l'.data = l.data) (key : String)
    (args : List Value) : l'.formatCommon key args = l.formatCommon key args := by
  obtain ⟨data, path⟩ := l
  obtain ⟨data', path'⟩ := l'
  cases h
  rfl

/-- What a locale formats, its views format. -/
theorem Formats.of_data_eq {channel : Value} {l' : Locale} (hl : l.Formats channel)
    (h : l'.data = l.data) : l'.Formats channel := by
  have hfills {key : String} {args : List Value} (hf : l.Fills key args) : l'.Fills key args := by
    rwa [Fills, formatCommon_eq_of_data_eq h]
  exact ⟨fun listed => hfills (hl.guild listed), fun listed => hfills (hl.channel listed),
    fun name position => hfills (hl.missing name position),
    fun name position types => hfills (hl.invalid name position types)⟩

/-! ### English -/

/-- A positional template can be filled in with as many arguments as it has positions. -/
theorem fills_of_isPositional {key template : String} {args : List Value} (count : Nat)
    (ht : l.textAt? (commonPath key) = some template) (hcount : args.length = count)
    (hpositional : Template.isPositional count template = true) : l.Fills key args := by
  rw [fills_iff, commonText, common?, ht, Option.getD_some]
  exact ⟨_, Template.format_of_isPositional (hcount ▸ hpositional)⟩

theorem formats_english (channel : Value) : english.Formats channel where
  guild _ := fills_of_isPositional 1 rfl rfl (by decide +kernel)
  channel _ := fills_of_isPositional 2 rfl rfl (by decide +kernel)
  missing _ _ := fills_of_isPositional 2 rfl rfl (by decide +kernel)
  invalid _ _ _ := fills_of_isPositional 3 rfl rfl (by decide +kernel)

/-! ### Listings -/

/-- The name of a key in the section at a path, or the key itself. -/
theorem keyName_sublocale? (l : Locale) (path key : String) :
    keyName (l.sublocale? path) (.text key) = .ok (l.nameIn path key) := by
  have hkey : Text.dotted key ≠ [] := Text.dotted_ne_nil key
  cases hview : l.viewAt? (Text.dotted path) with
  | none =>
    rw [sublocale?, hview, nameIn, textAt?_append_of_viewAt? hkey hview]
    rfl
  | some names =>
    obtain ⟨-, rfl⟩ := viewAt?_eq_some_iff.mp hview
    have hget : get? ⟨l.data, Text.dotted path⟩ key =
        l.textAt? (Text.dotted path ++ Text.dotted key) := rfl
    rw [sublocale?, hview, nameIn, keyName, textKey]
    dsimp only
    rw [hget]
    cases l.textAt? (Text.dotted path ++ Text.dotted key) with
    | none => rfl
    | some name => cases hname : name.isEmpty <;> simp [Option.filter, hname]

theorem mapM_keyName (l : Locale) (path : String) (keys : List String) :
    (keys.map Value.text).mapM (keyName (l.sublocale? path)) = .ok (keys.map (l.nameIn path)) := by
  induction keys with
  | nil => rfl
  | cons key rest ih =>
    rw [List.map_cons, List.mapM_cons, keyName_sublocale?, ih]
    rfl

/-- A listing has the name of every key, in order, with the separator of the locale between
them. -/
theorem outcome_listing (l : Locale) (keys : List String) (path : String) :
    (l.listing (.tuple (keys.map .text)) path).outcome =
      .ok (String.intercalate (l.commonText "list_separator") (keys.map (l.nameIn path))) := by
  have hseparator : (l.common "list_separator").outcome = .ok (l.commonText "list_separator") :=
    l.outcome_textAt _
  rw [listing, Run.bind_of_ok hseparator, joined, Value.items, Value.elements?]
  simp only [bind, Except.bind, mapM_keyName]
  rfl

/-- The names of some texts can always be listed. -/
theorem exists_listing (l : Locale) {keys : List Value} (hkeys : ∀ key ∈ keys, key.isText = true)
    (path : String) : ∃ text, (l.listing (.tuple keys) path).outcome = .ok text := by
  obtain ⟨texts, rfl⟩ : keys ∈ Set.range (List.map Value.text) := by
    rw [Set.range_list_map]
    exact fun key hkey => (Value.eq_text_of_isText (hkeys key hkey)).imp fun _ => Eq.symm
  exact ⟨_, l.outcome_listing texts path⟩

end ChatCommands.Locale
