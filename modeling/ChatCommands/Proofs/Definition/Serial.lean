import ChatCommands.Definition.Term
import ChatCommands.Proofs.Dispatch.Tree
import Mathlib.Data.List.Induction
import Mathlib.Data.Set.Insert

/-!
# Serial numbers of commands

The serial number of a command stands for the command itself: a built command gets the next number,
and a number that is in use is never given again.  A value that a term builds is made of known
commands, those of the variables in scope, and of new ones; all of them have numbers of their own.

## Main definitions

* `IsNumbered` : commands of different numbers below the next one.
* `Value.IsFrom` : a value whose commands are known.
* `Term.IsWritten` : a term that holds commands only as they are written.
* `Build.Keeps` : a computation that numbers what it makes.

## Main results

* `IsNumbered.insert` : a command with the next number is a new one.
* `Term.keeps_build` : building a term numbers what it makes.
-/

namespace ChatCommands

/-- Known commands have serial numbers below the next one, each of its own. -/
structure IsNumbered (known : Set Command) (next : Nat) : Prop where
  lt : ∀ c ∈ known, c.serial < next
  unique : ∀ c ∈ known, ∀ d ∈ known, c.serial = d.serial → c = d

theorem IsNumbered.mono {known known' : Set Command} {next : Nat} (h : IsNumbered known' next)
    (hsub : known ⊆ known') : IsNumbered known next where
  lt c hc := h.lt c (hsub hc)
  unique c hc d hd := h.unique c (hsub hc) d (hsub hd)

/-- Numbers may be left out. -/
theorem IsNumbered.succ {known : Set Command} {next : Nat} (h : IsNumbered known next) :
    IsNumbered known (next + 1) where
  lt c hc := Nat.lt_succ_of_lt (h.lt c hc)
  unique := h.unique

/-- A command with the next number is a new one. -/
theorem IsNumbered.insert {known : Set Command} {c : Command} (h : IsNumbered known c.serial) :
    IsNumbered (insert c known) (c.serial + 1) where
  lt d hd := by
    rcases Set.mem_insert_iff.mp hd with rfl | hd
    · exact Nat.lt_succ_self _
    · exact h.succ.lt d hd
  unique d hd e he hserial := by
    rcases Set.mem_insert_iff.mp hd with rfl | hold
    · rcases Set.mem_insert_iff.mp he with rfl | hold
      · rfl
      · exact absurd hserial.symm (Nat.ne_of_lt (h.lt e hold))
    · rcases Set.mem_insert_iff.mp he with rfl | hold'
      · exact absurd hserial (Nat.ne_of_lt (h.lt d hold))
      · exact h.unique d hold e hold' hserial

/-! ### Values of known commands -/

/-- The commands of a value are known, at every depth. -/
def Value.IsFrom (known : Set Command) (v : Value) : Prop :=
  ∀ c ∈ nodes v, c ∈ known

namespace Value

variable {known known' : Set Command} {v : Value} {items : List Value} {entries : Entries}

theorem IsFrom.mono (h : v.IsFrom known) (hsub : known ⊆ known') : v.IsFrom known' :=
  fun c hc => hsub (h c hc)

theorem isFrom_of_nodes_eq_nil (h : nodes v = []) : v.IsFrom known := by
  intro c hc
  rw [h] at hc
  exact absurd hc List.not_mem_nil

theorem isFrom_null : Value.null.IsFrom known :=
  isFrom_of_nodes_eq_nil (by simp only [nodes])

theorem isFrom_of_elements (hv : v.elements? = some items) (h : ∀ w ∈ items, w.IsFrom known) :
    v.IsFrom known := by
  intro c hc
  rw [nodes_of_elements hv] at hc
  obtain ⟨w, hw, hc⟩ := List.mem_flatMap.mp hc
  exact h w hw c hc

theorem nodes_frozen (v : Value) : nodes v.frozen = nodes v := by
  cases v <;> simp only [frozen, nodes]

theorem mem_of_mem_distinct {v : Value} (h : v ∈ distinct items) : v ∈ items := by
  induction items using List.reverseRecOn with
  | nil => exact h
  | append_singleton items w ih =>
    rw [distinct, List.foldl_append] at h
    change v ∈ (if w.isIn (distinct items) then distinct items else distinct items ++ [w]) at h
    split at h
    · exact List.mem_append_left _ (ih h)
    · exact (List.mem_append.mp h).elim (fun h => List.mem_append_left _ (ih h))
        (List.mem_append_right _)

theorem mem_of_mem_inSetOrder {v : Value} (h : v ∈ inSetOrder items) : v ∈ items := by
  unfold inSetOrder at h
  split at h
  · exact List.mem_mergeSort.mp h
  · exact h

theorem isFrom_setOf {isFrozen : Bool} (h : ∀ w ∈ items, w.IsFrom known)
    (hv : setOf isFrozen items = .ok v) : v.IsFrom known := by
  unfold setOf at hv
  cases hitems : items.forM hashable with
  | error m =>
    rw [hitems] at hv
    cases hv
  | ok _ =>
    rw [hitems] at hv
    cases hv
    exact isFrom_of_elements rfl fun w hw => h w (mem_of_mem_distinct (mem_of_mem_inSetOrder hw))

theorem isFrom_given {f : Option Value} (h : ∀ w, f = some w → w.IsFrom known) :
    (CommandOf.given f).IsFrom known := by
  unfold CommandOf.given orElse
  split
  · exact isFrom_null
  · cases f with
    | none => exact isFrom_null
    | some w => exact h w rfl

end Value

/-! ### Building -/

namespace Build

variable {α β : Type}

/-- What a computation makes out of known commands holds of them and of new ones, which it gives
numbers of their own. -/
def Keeps (x : Build α) (known : Set Command) (next : Nat)
    (holds : Set Command → α → Prop) : Prop :=
  ∀ a next', x.run next = .ok (a, next') →
    ∃ known', known ⊆ known' ∧ IsNumbered known' next' ∧ holds known' a

variable {known : Set Command} {next : Nat} {P : Set Command → α → Prop}
  {Q : Set Command → β → Prop}

theorem keeps_pure (hknown : IsNumbered known next) {a : α} (ha : P known a) :
    Keeps (pure a) known next P := by
  intro b next' h
  cases h
  exact ⟨known, subset_rfl, hknown, ha⟩

theorem keeps_throw {e : Error} : Keeps (throw e : Build α) known next P :=
  nofun

theorem keeps_ofExcept (hknown : IsNumbered known next) {r : Except Error α}
    (hr : ∀ a, r = .ok a → P known a) : Keeps (ofExcept r) known next P := by
  intro a next' h
  cases r with
  | error e => cases h
  | ok b =>
    cases h
    exact ⟨known, subset_rfl, hknown, hr a rfl⟩

/-- A number may go to something that is no command. -/
theorem keeps_serial (hknown : IsNumbered known next) :
    serial.Keeps known next fun _ _ => True := by
  intro n next' h
  cases h
  exact ⟨known, subset_rfl, hknown.succ, trivial⟩

theorem Keeps.bind {x : Build α} {f : α → Build β} (hx : x.Keeps known next P)
    (hf : ∀ known' next' a, known ⊆ known' → IsNumbered known' next' → P known' a →
      (f a).Keeps known' next' Q) : (x >>= f).Keeps known next Q := by
  intro b next'' h
  rw [StateT.run_bind] at h
  cases hrun : x.run next with
  | error e =>
    rw [hrun] at h
    cases h
  | ok r =>
    rw [hrun] at h
    obtain ⟨known', hsub, hknown', ha⟩ := hx r.1 r.2 hrun
    obtain ⟨known'', hsub', hknown'', hb⟩ := hf known' r.2 r.1 hsub hknown' ha b next'' h
    exact ⟨known'', hsub.trans hsub', hknown'', hb⟩

end Build

namespace Term

mutual

/-- A term that holds commands only as they are written: its constants hold none. -/
def IsWritten : Term → Prop
  | .const v => nodes v = []
  | .list items => AreWritten items
  | .tuple items => AreWritten items
  | .set _ items => AreWritten items
  | .stream items => AreWritten items
  | .map entries => AreWrittenEntries entries
  | .holder content => IsWritten content
  | .argument name types fields => IsWritten name ∧ AreWritten types ∧ AreWrittenEntries fields
  | .command fields => AreWrittenEntries fields
  | .script _ _ result _ details _ _ => IsWritten result ∧ AreWritten details
  | _ => True

def AreWritten : List Term → Prop
  | [] => True
  | t :: rest => IsWritten t ∧ AreWritten rest

def AreWrittenEntries : List (String × Term) → Prop
  | [] => True
  | (_, t) :: rest => IsWritten t ∧ AreWrittenEntries rest

end

end Term

/-- The variables of a scope hold known commands. -/
def Scope.IsFrom (known : Set Command) (scope : Scope) : Prop :=
  ∀ moduleName name v, scope moduleName name = some v → v.IsFrom known

theorem Scope.IsFrom.mono {scope : Scope} {known known' : Set Command} (h : scope.IsFrom known)
    (hsub : known ⊆ known') : scope.IsFrom known' :=
  fun moduleName name v hv => (h moduleName name v hv).mono hsub

namespace Term

open Build

variable {known : Set Command} {next : Nat}

theorem of_make_eq_ok {serial : Nat} {f : CommandFields} {c : Command}
    (h : CommandOf.make serial f = .ok c) :
    c.serial = serial ∧ c.subcommands = (CommandOf.given f.subcommands).frozen := by
  unfold CommandOf.make at h
  cases hrequired : CommandOf.permissionsOf (f.permissions.getD .null) with
  | error r =>
    rw [hrequired] at h
    cases h
  | ok required =>
    rw [hrequired] at h
    cases h
    exact ⟨rfl, rfl⟩

theorem run_makeCommand (entries : Entries) (next : Nat) :
    (makeCommand entries).run next =
      ((CommandOf.make next (CommandFields.ofEntries entries)).mapError .refusal).map
        fun c => (.command c, next + 1) := by
  unfold makeCommand
  cases h : CommandOf.make next (CommandFields.ofEntries entries) with
  | error r => simp [Build.serial, Build.ofExcept, h, Except.mapError, Except.map]
  | ok c => simp [Build.serial, Build.ofExcept, h, Except.mapError, Except.map]

/-- A command is built with the next number. -/
theorem keeps_makeCommand (hknown : IsNumbered known next) {entries : Entries}
    (hentries : ∀ e ∈ entries, e.2.IsFrom known) :
    (makeCommand entries).Keeps known next fun known v => v.IsFrom known := by
  intro v next' h
  rw [run_makeCommand] at h
  cases hmade : CommandOf.make next (CommandFields.ofEntries entries) with
  | error r =>
    rw [hmade] at h
    cases h
  | ok c =>
    rw [hmade] at h
    cases h
    obtain ⟨rfl, hsubcommands⟩ := of_make_eq_ok hmade
    refine ⟨insert c known, Set.subset_insert c known, hknown.insert, fun d hd => ?_⟩
    rcases List.mem_cons.mp (nodes_command c ▸ hd) with rfl | hd
    · exact Set.mem_insert d known
    · rw [hsubcommands, Value.nodes_frozen] at hd
      refine Set.mem_insert_of_mem c (Value.isFrom_given (fun w hw => ?_) d hd)
      obtain ⟨front, back, hsplit, -⟩ := List.lookup_eq_some_iff.mp hw
      exact hentries ("subcommands", w) (by rw [hsplit]; simp)

/-- What is read from a text holds no commands. -/
theorem keeps_plain {α : Type} (hknown : IsNumbered known next) (r : Except Error α)
    {f : α → Value} (hf : ∀ a, nodes (f a) = []) :
    Keeps (do return f (← Build.ofExcept r)) known next fun known v => v.IsFrom known :=
  (keeps_ofExcept (P := fun _ _ => True) hknown fun _ _ => trivial).bind fun _ _ a _ hknown _ =>
    keeps_pure hknown (Value.isFrom_of_nodes_eq_nil (hf a))

/-- What takes a number and holds no commands. -/
theorem keeps_numbered (hknown : IsNumbered known next) {f : Nat → Value}
    (hf : ∀ n, (f n).IsFrom known) :
    (do return f (← Build.serial)).Keeps known next fun known v => v.IsFrom known :=
  (keeps_serial hknown).bind fun _ _ n hsub hknown _ => keeps_pure hknown ((hf n).mono hsub)

variable (scope : Scope)

mutual

theorem keeps_build : ∀ (t : Term), t.IsWritten → ∀ {known next}, IsNumbered known next →
    scope.IsFrom known → (t.build scope).Keeps known next fun known v => v.IsFrom known
  | .const v, hwritten, _, _, hknown, _ => by
    rw [IsWritten] at hwritten
    exact keeps_pure hknown (Value.isFrom_of_nodes_eq_nil hwritten)
  | .integer written, _, _, _, hknown, _ => by
    rw [build]
    exact keeps_plain hknown _ fun n => by simp only [nodes]
  | .float written, _, _, _, hknown, _ => by
    rw [build]
    exact (keeps_ofExcept (P := fun _ _ => True) hknown fun _ _ => trivial).bind
      fun _ _ x _ hknown _ => keeps_numbered hknown (f := fun n => .float (x.withSerial n))
        fun _ => Value.isFrom_of_nodes_eq_nil (by simp only [nodes])
  | .bytes written, _, _, _, hknown, _ => by
    rw [build]
    exact keeps_plain hknown _ fun bs => by simp only [nodes]
  | .permissions written, _, _, _, hknown, _ => by
    rw [build]
    exact (keeps_ofExcept (P := fun _ _ => True) hknown fun _ _ => trivial).bind
      fun _ _ n _ hknown _ => keeps_plain hknown
        ((Permission.ofBits (Permission.ofInt n)).mapError .refusal) fun _ => by simp only [nodes]
  | .code name, _, _, _, hknown, _ => by
    unfold build
    split
    · exact keeps_pure hknown (Value.isFrom_of_nodes_eq_nil (by simp only [nodes]))
    · exact keeps_throw
  | .list items, hwritten, _, _, hknown, hscope
  | .tuple items, hwritten, _, _, hknown, hscope => by
    rw [IsWritten] at hwritten
    rw [build]
    exact (keeps_buildAll items hwritten hknown hscope).bind fun _ _ _ _ hknown hvs =>
      keeps_pure hknown (Value.isFrom_of_elements rfl hvs)
  | .stream items, hwritten, _, _, hknown, hscope => by
    rw [IsWritten] at hwritten
    rw [build]
    exact (keeps_buildAll items hwritten hknown hscope).bind fun _ _ vs _ hknown hvs =>
      keeps_numbered hknown (f := fun n => .stream n vs) fun _ => Value.isFrom_of_elements rfl hvs
  | .set isFrozen items, hwritten, _, _, hknown, hscope => by
    rw [IsWritten] at hwritten
    rw [build]
    refine (keeps_buildAll items hwritten hknown hscope).bind fun _ _ vs _ hknown hvs =>
      keeps_ofExcept hknown fun v hv => ?_
    cases hset : Value.setOf isFrozen vs with
    | error m =>
      rw [hset] at hv
      cases hv
    | ok w =>
      rw [hset] at hv
      cases hv
      exact Value.isFrom_setOf hvs hset
  | .map entries, hwritten, _, _, hknown, hscope => by
    rw [IsWritten] at hwritten
    rw [build]
    exact (keeps_buildEntries entries hwritten hknown hscope).bind fun _ _ _ _ hknown _ =>
      keeps_pure hknown (Value.isFrom_of_nodes_eq_nil (by simp only [nodes]))
  | .holder content, hwritten, _, _, hknown, hscope => by
    rw [IsWritten] at hwritten
    rw [build]
    exact (keeps_build content hwritten hknown hscope).bind fun _ _ _ _ hknown _ =>
      keeps_pure hknown (Value.isFrom_of_nodes_eq_nil (by simp only [nodes]))
  | .argument name types fields, hwritten, _, _, hknown, hscope => by
    rw [IsWritten] at hwritten
    rw [build]
    obtain ⟨hname, htypes, hfields⟩ := hwritten
    refine (keeps_build name hname hknown hscope).bind fun _ _ _ hsub hknown _ => ?_
    refine (keeps_buildAll types htypes hknown (hscope.mono hsub)).bind
      fun _ _ _ hsub' hknown _ => ?_
    exact (keeps_buildEntries fields hfields hknown ((hscope.mono hsub).mono hsub')).bind
      fun _ _ _ _ hknown _ =>
        keeps_numbered hknown (f := fun n => .argument (ArgumentOf.make n _ _ _ _))
          fun _ => Value.isFrom_of_nodes_eq_nil (by simp only [nodes])
  | .command fields, hwritten, _, _, hknown, hscope => by
    rw [IsWritten] at hwritten
    rw [build]
    exact (keeps_buildEntries fields hwritten hknown hscope).bind fun _ _ _ _ hknown hentries =>
      keeps_makeCommand hknown hentries
  | .script label waits result kind details replies formats, hwritten, _, _, hknown, hscope => by
    rw [IsWritten] at hwritten
    rw [build]
    refine (keeps_build result hwritten.1 hknown hscope).bind fun _ _ _ hsub hknown _ => ?_
    exact (keeps_buildAll details hwritten.2 hknown (hscope.mono hsub)).bind
      fun _ _ _ _ hknown _ =>
        keeps_numbered hknown (f := fun n => .callable (.script ⟨n, _, _, _, _, _, _⟩))
          fun _ => Value.isFrom_of_nodes_eq_nil (by simp only [nodes])
  | .variable moduleName name, _, _, _, hknown, hscope => by
    unfold build
    split
    · rename_i v hv
      exact keeps_pure hknown (hscope moduleName name v hv)
    · exact keeps_throw

theorem keeps_buildAll : ∀ (items : List Term), AreWritten items → ∀ {known next},
    IsNumbered known next → scope.IsFrom known →
    (buildAll scope items).Keeps known next fun known vs => ∀ v ∈ vs, v.IsFrom known
  | [], _, _, _, hknown, _ => keeps_pure hknown nofun
  | t :: rest, hwritten, _, _, hknown, hscope => by
    rw [AreWritten] at hwritten
    refine (keeps_build t hwritten.1 hknown hscope).bind fun _ _ v hsub hknown hv => ?_
    refine (keeps_buildAll rest hwritten.2 hknown (hscope.mono hsub)).bind
      fun _ _ vs hsub hknown hvs => keeps_pure hknown ?_
    exact List.forall_mem_cons.mpr ⟨hv.mono hsub, hvs⟩

theorem keeps_buildEntries : ∀ (entries : List (String × Term)), AreWrittenEntries entries →
    ∀ {known next}, IsNumbered known next → scope.IsFrom known →
    (buildEntries scope entries).Keeps known next fun known es => ∀ e ∈ es, e.2.IsFrom known
  | [], _, _, _, hknown, _ => keeps_pure hknown nofun
  | (name, t) :: rest, hwritten, _, _, hknown, hscope => by
    rw [AreWrittenEntries] at hwritten
    refine (keeps_build t hwritten.1 hknown hscope).bind fun _ _ v hsub hknown hv => ?_
    refine (keeps_buildEntries rest hwritten.2 hknown (hscope.mono hsub)).bind
      fun _ _ vs hsub hknown hvs => keeps_pure hknown ?_
    exact List.forall_mem_cons.mpr ⟨hv.mono hsub, hvs⟩

end

end Term

end ChatCommands
