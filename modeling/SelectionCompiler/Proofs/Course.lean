import Mathlib.Logic.Relation
import SelectionCompiler.Proofs.Reading.Declarations
import SelectionCompiler.Proofs.Walk

/-!
# The course of a compilation

A compilation changes its session in two ways only.  It notes something that has nothing to do with
declarations, or it registers the use of a variable, which is noted too.  So the sessions that it
passes through form a chain, and the log of each of them tells what its registry is: the
declarations that were made, and the changes of their types.

The compiler registers a use only after it has looked at the name of the variable, and only at a
place whose type was read from a text.  What is noted of a declaration can therefore be written, and
so can every registry on the way, even if the compilation fails later on.
-/

namespace SelectionCompiler

/-! ### Steps from session to session -/

/-- The declaration that an event tells of. -/
def Event.declaration? : Event → Option (String × TypeRef)
  | .registered name type => some (name, type)
  | .reused name type => some (name, type)
  | _ => none

namespace Session

/-- A session and the one after it: something was noted that tells of no declaration, or an allowed
use was registered. -/
inductive Advances (allowed : Usage → Prop) : Session → Session → Prop where
  | note (session : Session) {event : Event} (hplain : event.declaration? = none) :
      Advances allowed session (session.note event)
  | use (session : Session) {usage : Usage} (hallowed : allowed usage) :
      Advances allowed session (session.use usage)

/-- The second session is reached from the first one, and no uses but the allowed ones are
registered on the way. -/
abbrev Leads (allowed : Usage → Prop) : Session → Session → Prop :=
  Relation.ReflTransGen (Advances allowed)

/-- The first session may come before the second one in a compilation. -/
def Before (session later : Session) : Prop :=
  session.Leads (fun _ => True) later

theorem Leads.before {allowed : Usage → Prop} {session later : Session}
    (hleads : session.Leads allowed later) : session.Before later := by
  unfold Before
  induction hleads with
  | refl => exact .refl
  | @tail between _ _ hadvances ih =>
      cases hadvances with
      | note hplain => exact ih.tail (.note between hplain)
      | use _ => exact ih.tail (.use between trivial)

/-- The log only grows. -/
theorem Before.log_prefix {session later : Session} (hbefore : session.Before later) :
    session.log <+: later.log := by
  unfold Before at hbefore
  induction hbefore with
  | refl => exact List.prefix_refl session.log
  | @tail between _ _ hadvances ih =>
      cases hadvances with
      | note _ => exact ih.trans (List.prefix_append between.log _)
      | use _ => exact ih.trans (List.prefix_append between.log _)

end Session

/-! ### What the log tells of the registry -/

namespace Registry

/-- The registry after an event. -/
def learn (registry : Registry) : Event → Registry
  | .registered name type => ⟨registry.entries ++ [(name, type)]⟩
  | .reused name type => ⟨registry.entries.put name type⟩
  | _ => registry

/-- The registry of which a log tells. -/
def ofLog (log : List Event) : Registry :=
  log.foldl learn empty

theorem ofLog_append (log events : List Event) :
    ofLog (log ++ events) = events.foldl learn (ofLog log) :=
  List.foldl_append

theorem learn_of_declaration?_eq_none {event : Event} (hplain : event.declaration? = none)
    (registry : Registry) : registry.learn event = registry := by
  cases event with
  | registered name type => cases hplain
  | reused name type => cases hplain
  | conflict name used declared => rfl
  | argumentWritten path text => rfl
  | fieldReached path => rfl
  | fragmentReached path => rfl
  | compiled document => rfl

/-- The events of a use tell what becomes of the registry. -/
theorem foldl_learn_eventsOf (registry : Registry) (usage : Usage) :
    (registry.eventsOf usage).foldl learn registry = registry.register usage := by
  unfold eventsOf register
  cases registry.get? usage.name with
  | none => rfl
  | some declared =>
      by_cases hshape : declared.sameShape usage.requiredType
      · simp [hshape, learn]
      · simp [hshape, learn]

end Registry

theorem Session.Before.registry_eq {session later : Session} (hbefore : session.Before later)
    (hsession : session.registry = Registry.ofLog session.log) :
    later.registry = Registry.ofLog later.log := by
  unfold Before at hbefore
  induction hbefore with
  | refl => exact hsession
  | @tail between _ _ hadvances ih =>
      cases hadvances with
      | @note event hplain =>
          calc (between.note event).registry
              = Registry.ofLog between.log := ih
            _ = (Registry.ofLog between.log).learn event :=
                (Registry.learn_of_declaration?_eq_none hplain _).symm
            _ = Registry.ofLog (between.note event).log := (Registry.ofLog_append _ [event]).symm
      | @use usage _ =>
          calc (between.use usage).registry
              = (between.registry.eventsOf usage).foldl Registry.learn between.registry :=
                (Registry.foldl_learn_eventsOf _ _).symm
            _ = (between.registry.eventsOf usage).foldl Registry.learn
                  (Registry.ofLog between.log) := by rw [← ih]
            _ = Registry.ofLog (between.use usage).log := (Registry.ofLog_append _ _).symm

/-- No name is declared twice. -/
theorem Session.Before.nodup_names {session later : Session} (hbefore : session.Before later)
    (hsession : session.registry.names.Nodup) : later.registry.names.Nodup := by
  unfold Before at hbefore
  induction hbefore with
  | refl => exact hsession
  | tail _ hadvances ih =>
      cases hadvances with
      | note _ => exact ih
      | @use usage _ => exact Registry.nodup_names_register ih usage

/-! ### Declarations that can be written -/

/-- The grammar can write the declaration that the event tells of. -/
def Event.IsWritable (event : Event) : Prop :=
  ∀ declaration ∈ event.declaration?,
    Name.isValid declaration.1 = true ∧ declaration.2.IsWritable

namespace Registry

theorem IsWritable.learn {registry : Registry} (hregistry : registry.IsWritable) {event : Event}
    (hevent : event.IsWritable) : (registry.learn event).IsWritable := by
  intro declared type hget
  cases event with
  | registered name new =>
      have hnew := hevent (name, new) rfl
      change Table.get? (registry.entries ++ [(name, new)]) declared = some type at hget
      rw [Table.get?_append, Option.or_eq_some_iff] at hget
      rcases hget with hold | ⟨-, hlast⟩
      · exact hregistry declared type hold
      · obtain ⟨rfl, rfl⟩ : declared = name ∧ type = new := by
          simpa using Table.mem_of_get? hlast
        exact hnew
  | reused name new =>
      have hnew := hevent (name, new) rfl
      change Table.get? (registry.entries.put name new) declared = some type at hget
      rw [Table.get?_put] at hget
      split at hget
      · rename_i hname
        rw [hname, ← Option.some.inj hget]
        exact hnew
      · exact hregistry declared type hget
  | conflict name used known => exact hregistry declared type hget
  | argumentWritten path text => exact hregistry declared type hget
  | fieldReached path => exact hregistry declared type hget
  | fragmentReached path => exact hregistry declared type hget
  | compiled document => exact hregistry declared type hget

theorem isWritable_ofLog {log : List Event} (hlog : ∀ event ∈ log, event.IsWritable) :
    (ofLog log).IsWritable := by
  have hfold : ∀ registry : Registry, registry.IsWritable →
      (log.foldl learn registry).IsWritable := by
    induction log with
    | nil => exact fun _ hregistry => hregistry
    | cons event rest ih =>
        intro registry hregistry
        obtain ⟨hevent, hrest⟩ := List.forall_mem_cons.mp hlog
        exact ih hrest _ (hregistry.learn hevent)
  exact hfold empty isWritable_empty

/-- What is noted of a use can be written if the registry and the use can. -/
theorem isWritable_of_mem_eventsOf {registry : Registry} (hregistry : registry.IsWritable)
    {usage : Usage} (husage : usage.IsWritable) :
    ∀ event ∈ registry.eventsOf usage, event.IsWritable := by
  have hdeclared : (usage.declare (registry.get? usage.name)).IsWritable :=
    husage.declare fun known hknown => (hregistry usage.name known hknown).2
  intro event hevent declaration hdeclaration
  unfold eventsOf at hevent
  cases hget : registry.get? usage.name with
  | none =>
      rw [hget] at hevent hdeclared
      obtain rfl : event = .registered usage.name usage.requiredType := by simpa using hevent
      cases hdeclaration
      exact ⟨husage.name, hdeclared⟩
  | some declared =>
      rw [hget] at hevent hdeclared
      -- A conflict tells of no declaration, so the last event is the one that matters.
      rcases List.mem_append.mp hevent with hconflict | hreused
      · split at hconflict
        · cases hconflict
        · obtain rfl := List.mem_singleton.mp hconflict
          cases hdeclaration
      · obtain rfl := List.mem_singleton.mp hreused
        cases hdeclaration
        exact ⟨husage.name, hdeclared⟩

end Registry

/-- Uses that can be written keep the registry and the log such that they can be written. -/
theorem Session.Leads.isWritable {later : Session}
    (hleads : Session.start.Leads Usage.IsWritable later) :
    later.registry.IsWritable ∧ ∀ event ∈ later.log, event.IsWritable := by
  induction hleads with
  | refl => exact ⟨Registry.isWritable_empty, fun _ hevent => by cases hevent⟩
  | tail _ hadvances ih =>
      obtain ⟨hregistry, hlog⟩ := ih
      cases hadvances with
      | note hplain =>
          refine ⟨hregistry, fun event hevent => ?_⟩
          rcases List.mem_append.mp hevent with hold | hnew
          · exact hlog event hold
          · obtain rfl := List.mem_singleton.mp hnew
            intro declaration hdeclaration
            rw [hplain] at hdeclaration
            cases hdeclaration
      | use husage =>
          refine ⟨hregistry.register husage, fun event hevent => ?_⟩
          rcases List.mem_append.mp hevent with hold | hnew
          · exact hlog event hold
          · exact Registry.isWritable_of_mem_eventsOf hregistry husage event hnew

/-- If a compilation registers only uses that can be written, then at every point on its way all
declarations can be written. -/
theorem Session.Leads.isWritable_of_before {later : Session}
    (hleads : Session.start.Leads Usage.IsWritable later) {point : Session}
    (hstart : Session.start.Before point) (hlater : point.Before later) :
    ∀ definition ∈ point.registry.definitions, definition.IsWritable := by
  have hregistry : point.registry.IsWritable := by
    rw [hstart.registry_eq rfl]
    refine Registry.isWritable_ofLog fun event hevent => ?_
    exact hleads.isWritable.2 event (hlater.log_prefix.subset hevent)
  exact hregistry.definitions (hstart.nodup_names List.nodup_nil)

/-! ### The steps of the compiler -/

namespace Compile

variable {α β : Type} {allowed : Usage → Prop}

/-- From any session the step registers allowed uses only, and if it ends in a value, then in an
expected one. -/
def Proceeds (allowed : Usage → Prop) (step : Compile α) (expected : α → Prop) : Prop :=
  ∀ session, session.Leads allowed (step.runFrom session).2 ∧
    ∀ value, (step.runFrom session).1 = .ok value → expected value

theorem proceeds_pure {expected : α → Prop} {value : α} (hvalue : expected value) :
    Proceeds allowed (pure value) expected :=
  fun _ => ⟨.refl, fun _ hresult => by cases hresult; exact hvalue⟩

theorem proceeds_throw (error : CompileError) (expected : α → Prop) :
    Proceeds allowed (throw error) expected :=
  fun _ => ⟨.refl, fun _ hresult => by cases hresult⟩

theorem proceeds_get : Proceeds allowed (get : Compile Session) fun _ => True :=
  fun _ => ⟨.refl, fun _ _ => trivial⟩

theorem proceeds_note {event : Event} (hplain : event.declaration? = none) :
    Proceeds allowed (note event) fun _ => True :=
  fun session => ⟨.single (.note session hplain), fun _ _ => trivial⟩

theorem proceeds_use {usage : Usage} (hallowed : allowed usage) :
    Proceeds allowed (use usage) fun _ => True :=
  fun session => ⟨.single (.use session hallowed), fun _ _ => trivial⟩

theorem Proceeds.bind {step : Compile α} {continue_ : α → Compile β} {expected : α → Prop}
    {desired : β → Prop} (hstep : Proceeds allowed step expected)
    (hcontinue : ∀ value, expected value → Proceeds allowed (continue_ value) desired) :
    Proceeds allowed (step >>= continue_) desired := by
  intro session
  obtain ⟨hleads, hvalue⟩ := hstep session
  cases hrun : step.runFrom session with
  | mk result next =>
      rw [hrun] at hleads hvalue
      cases result with
      | error error =>
          rw [runFrom_bind_of_error hrun]
          exact ⟨hleads, fun _ hresult => by cases hresult⟩
      | ok value =>
          rw [runFrom_bind_of_ok hrun]
          obtain ⟨hrest, hresult⟩ := hcontinue value (hvalue value rfl) next
          exact ⟨hleads.trans hrest, hresult⟩

theorem Proceeds.map {step : Compile α} {expected : α → Prop} {desired : β → Prop} {f : α → β}
    (hstep : Proceeds allowed step expected) (hf : ∀ value, expected value → desired (f value)) :
    Proceeds allowed (f <$> step) desired := by
  rw [← bind_pure_comp]
  exact hstep.bind fun value hvalue => proceeds_pure (hf value hvalue)

/-! ### The compiler registers what can be written -/

theorem proceeds_enumText (path value : String) :
    Proceeds Usage.IsWritable (enumText path value) fun _ => True := by
  unfold enumText
  split
  · exact proceeds_pure trivial
  · exact proceeds_throw _ _

/-- The type of an entry was read from a text, so it can be written. -/
theorem proceeds_entryType (table : Option (Table String)) (path key : String)
    (missing : SchemaFault) :
    Proceeds Usage.IsWritable (entryType table path key missing)
      fun type => ∀ known ∈ type, TypeRef.IsWritable known := by
  unfold entryType readType
  cases table with
  | none => exact proceeds_pure fun _ hknown => by cases hknown
  | some table =>
      simp only []
      cases table.get? key with
      | none => exact proceeds_throw _ _
      | some text =>
          have hsome : ∀ type : TypeRef, type.IsWritable →
              ∀ known ∈ some type, TypeRef.IsWritable known := by
            intro type htype known hknown
            rwa [← Option.some.inj hknown]
          simp only []
          cases hread : TypeRef.read text with
          | error error => exact (proceeds_throw _ TypeRef.IsWritable).map hsome
          | ok type => exact (proceeds_pure (TypeRef.isWritable_of_read hread)).map hsome

theorem proceeds_inputTable (schema : Schema) (type : Option TypeRef) (path : String) :
    Proceeds Usage.IsWritable (inputTable schema type path) fun _ => True := by
  unfold inputTable
  cases type with
  | none => exact proceeds_pure trivial
  | some type =>
      simp only []
      cases schema.inputType? type.baseName with
      | none => exact proceeds_throw _ _
      | some fields => exact proceeds_pure trivial

/-- The name is looked at before the use is registered. -/
theorem proceeds_variableText {type : Option TypeRef}
    (htype : ∀ known ∈ type, TypeRef.IsWritable known) (path : String) (ref : VariableRef) :
    Proceeds Usage.IsWritable (variableText type path ref) fun _ => True := by
  unfold variableText
  by_cases hname : Name.isValid ref.name
  · rw [if_pos hname]
    cases type with
    | none => exact proceeds_throw _ _
    | some type =>
        exact (proceeds_use ⟨hname, htype type rfl⟩).bind fun _ _ => proceeds_pure trivial
  · rw [if_neg hname]
    exact proceeds_throw _ _

mutual
theorem proceeds_valueText (schema : Schema) {type : Option TypeRef}
    (htype : ∀ known ∈ type, TypeRef.IsWritable known) (path : String) :
    ∀ value : Value,
      Proceeds Usage.IsWritable (valueText schema type path value) fun _ => True
  | .null => proceeds_pure trivial
  | .int _ => proceeds_pure trivial
  | .float _ => proceeds_pure trivial
  | .boolean _ => proceeds_pure trivial
  | .enum name => proceeds_enumText path name
  | .variable ref => proceeds_variableText htype path ref
  | .string value => by
      unfold valueText
      split
      · exact proceeds_enumText path value
      · exact proceeds_pure trivial
  | .list items => by
      have hitem : ∀ known ∈ type.map TypeRef.itemType, TypeRef.IsWritable known := by
        intro known hknown
        obtain ⟨outer, houter, rfl⟩ := Option.map_eq_some_iff.mp hknown
        exact (htype outer houter).itemType
      unfold valueText
      exact (proceeds_itemTexts schema hitem path 0 items).bind fun _ _ => proceeds_pure trivial
  | .object entries => by
      unfold valueText
      exact (proceeds_inputTable schema type path).bind fun table _ =>
        (proceeds_entryTexts schema table _ path entries).bind fun _ _ => proceeds_pure trivial

theorem proceeds_itemTexts (schema : Schema) {type : Option TypeRef}
    (htype : ∀ known ∈ type, TypeRef.IsWritable known) (path : String) :
    ∀ (position : Nat) (items : List Value),
      Proceeds Usage.IsWritable (itemTexts schema type path position items) fun _ => True
  | _, [] => proceeds_pure trivial
  | position, item :: rest => by
      unfold itemTexts
      exact (proceeds_valueText schema htype _ item).bind fun _ _ =>
        (proceeds_itemTexts schema htype path (position + 1) rest).bind fun _ _ =>
          proceeds_pure trivial

theorem proceeds_entryTexts (schema : Schema) (table : Option (Table String))
    (typeName path : String) :
    ∀ entries : List (String × Value),
      Proceeds Usage.IsWritable (entryTexts schema table typeName path entries) fun _ => True
  | [] => proceeds_pure trivial
  | (key, value) :: rest => by
      unfold entryTexts
      exact (proceeds_entryType table _ key _).bind fun _ htype =>
        (proceeds_valueText schema htype _ value).bind fun _ _ =>
          (proceeds_entryTexts schema table typeName path rest).bind fun _ _ =>
            proceeds_pure trivial
end

theorem proceeds_argumentTexts (schema : Schema) (table : Option (Table String))
    (fieldName path : String) :
    ∀ entries : List (String × Value),
      Proceeds Usage.IsWritable (argumentTexts schema table fieldName path entries) fun _ => True
  | [] => proceeds_pure trivial
  | (key, value) :: rest => by
      unfold argumentTexts
      exact (proceeds_entryType table _ key _).bind fun _ htype =>
        (proceeds_valueText schema htype _ value).bind fun _ _ =>
          (proceeds_note rfl).bind fun _ _ =>
            (proceeds_argumentTexts schema table fieldName path rest).bind fun _ _ =>
              proceeds_pure trivial

theorem proceeds_argumentsText (schema : Schema) (parent : Option String) (path : String)
    (field : Field) :
    Proceeds Usage.IsWritable (argumentsText schema parent path field) fun _ => True := by
  unfold argumentsText
  exact (proceeds_argumentTexts schema _ field.name path field.arguments).map fun _ _ => trivial

theorem proceeds_fieldArguments (schema : Schema) (parent : Option String) (path : String)
    (field : Field) :
    Proceeds Usage.IsWritable (fieldArguments schema parent path field) fun _ => True := by
  unfold fieldArguments
  split
  · exact proceeds_pure trivial
  · exact (proceeds_argumentsText schema parent path field).map fun _ _ => trivial

mutual
theorem proceeds_selectionText (schema : Schema) (parent : Option String) (path : String) :
    ∀ selection : Selection,
      Proceeds Usage.IsWritable (selectionText schema parent path selection) fun _ => True
  | .field field selections => by
      unfold selectionText
      refine (proceeds_note rfl).bind fun _ _ =>
        (proceeds_fieldArguments schema parent _ field).bind fun _ _ => ?_
      split
      · exact proceeds_pure trivial
      · exact (proceeds_selectionTexts schema none _ selections).bind fun _ _ =>
          proceeds_pure trivial
  | .fragment typeCondition selections => by
      unfold selectionText
      exact (proceeds_note rfl).bind fun _ _ =>
        (proceeds_selectionTexts schema (some typeCondition) _ selections).bind fun _ _ =>
          proceeds_pure trivial
  | .unknown => proceeds_throw _ _

theorem proceeds_selectionTexts (schema : Schema) (parent : Option String) (path : String) :
    ∀ selections : List Selection,
      Proceeds Usage.IsWritable (selectionTexts schema parent path selections) fun _ => True
  | [] => proceeds_pure trivial
  | selection :: rest => by
      unfold selectionTexts
      exact (proceeds_selectionText schema parent path selection).bind fun _ _ =>
        (proceeds_selectionTexts schema parent path rest).bind fun _ _ => proceeds_pure trivial
end

theorem proceeds_rootText (schema : Schema) (rootType : String) (selections : List Selection) :
    Proceeds Usage.IsWritable (rootText schema rootType selections) fun _ => True := by
  unfold rootText
  exact (proceeds_selectionTexts schema _ _ selections).map fun _ _ => trivial

/-- From the start of a compilation to its end, in a document or in an error, only uses that can be
written are registered. -/
theorem start_leads_operation (schema : Schema) (kind : OperationKind) (name : Option String)
    (selections : List Selection) :
    Session.start.Leads Usage.IsWritable (operation schema kind name selections).2 := by
  have hsteps : Proceeds Usage.IsWritable (operationSteps schema kind name selections)
      fun _ => True := by
    unfold operationSteps
    exact (proceeds_rootText schema _ selections).bind fun _ _ =>
      proceeds_get.bind fun _ _ => (proceeds_note rfl).bind fun _ _ => proceeds_pure trivial
  exact (hsteps Session.start).1

end Compile

end SelectionCompiler
