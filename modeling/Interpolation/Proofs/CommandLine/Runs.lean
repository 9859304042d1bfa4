import Interpolation.CommandLine.Run
import Interpolation.Proofs.Names.Unused
import Interpolation.Proofs.Scan.Outcomes

/-!
# Runs of the command line

A run has four things to do that can go wrong, one after the other: it reads the configuration and
the template, compiles, reads the context, and renders.  The text that it writes is complete before
the destination is touched, so a run that goes wrong leaves the world as it was, whatever it was
that went wrong.  There are five ways for a run to end, and `World.Ends` lists them with the text
that is written in each.

The command line asks for files step by step.  `Command.inWorld` says what comes of its parts in a
world, and `Command.openedIn` which files they open there, so that it can be said of a run that it
does not so much as open a file.

* `World.compiled`, `World.context`, `Compilation.rendered` — what the library makes of a
  configuration, a text, the options and a context.
* `World.ends_plan` — a run ends as listed.
* `World.Receives` — a text arrives at its destination, and nothing else is changed.
* **`World.run_all_or_nothing`** — what each status means, and what is written then.
-/

namespace Interpolation.CommandLine

open Interpolation.Text

/-! ## Tasks -/

namespace Task

variable {α β : Type} (read : String → Except FileFault (List UInt8)) (input : List UInt8)

/-- The files that a task opens, in order. -/
def opened : Task α → List String
  | done _ => []
  | readFile path next => path :: (next (read path)).opened
  | readInput next => (next input).opened

lemma runWith_bind (x : Task α) (f : α → Task β) :
    (x.bind f).runWith read input = (f (x.runWith read input)).runWith read input := by
  induction x with
  | done a => rfl
  | readFile path next ih => exact ih (read path)
  | readInput next ih => exact ih input

lemma opened_bind (x : Task α) (f : α → Task β) :
    (x.bind f).opened read input =
      x.opened read input ++ (f (x.runWith read input)).opened read input := by
  induction x with
  | done a => rfl
  | readFile path next ih => exact congrArg (path :: ·) (ih (read path))
  | readInput next ih => exact ih input

end Task

namespace Command

variable {α β : Type} {w : World}

/-- What comes of a part of a command in a world. -/
def inWorld (w : World) (x : Command α) : Except CommandFault α :=
  x.run.runWith w.files.read? w.input

/-- The files that a part of a command opens in a world. -/
def openedIn (w : World) (x : Command α) : List String :=
  x.run.opened w.files.read? w.input

lemma inWorld_bind (x : Command α) (f : α → Command β) :
    (x >>= f).inWorld w = x.inWorld w >>= fun a => (f a).inWorld w := by
  refine (Task.runWith_bind _ _ x.run _).trans ?_
  show (ExceptT.bindCont f (x.inWorld w)).runWith _ _ = (x.inWorld w).bind _
  cases x.inWorld w <;> rfl

/-- A part that has a result is followed by the next one. -/
lemma openedIn_bind {x : Command α} {a : α} (h : x.inWorld w = .ok a) (f : α → Command β) :
    (x >>= f).openedIn w = x.openedIn w ++ (f a).openedIn w := by
  refine (Task.opened_bind _ _ x.run _).trans ?_
  show _ ++ (ExceptT.bindCont f (x.inWorld w)).opened _ _ = _
  rw [h]
  rfl

lemma inWorld_lift (r : Except CommandFault α) : (lift r).inWorld w = r := rfl

/-- What is done to a result opens no file. -/
lemma openedIn_bind_lift (x : Command α) (f : α → Except CommandFault β) :
    (x >>= fun a => lift (f a)).openedIn w = x.openedIn w := by
  refine (Task.opened_bind _ _ x.run _).trans ?_
  show _ ++ Task.opened _ _ (ExceptT.bindCont _ (x.inWorld w)) = _
  cases x.inWorld w <;> exact List.append_nil _

lemma openedIn_fileText (path : String) : (fileText path).openedIn w = [path] :=
  openedIn_bind_lift _ decode

end Command

/-- The file from which the configuration is read, if there is one. -/
def Arguments.configFiles (a : Arguments) : List String :=
  match a.config with
  | none | some "" => []
  | some path => [path]

/-- The file from which the template is read, unless it is the standard input. -/
def Arguments.templateFiles (a : Arguments) : List String :=
  if a.template = "-" then [] else [a.template]

/-! ## What the library makes of it -/

/-- A text that was compiled. -/
structure Compilation where
  /-- The text. -/
  text : String
  /-- The template, if it is of use. -/
  template : Option Template
  /-- The interpolator that compiled it, and the records. -/
  after : Interpolator × List Record

/-- What the arguments ask of a compile of a text. -/
def Arguments.request (a : Arguments) (text : String) : CompileRequest :=
  ⟨text, a.mustHaveExpression, a.place.map Trust.Category.name⟩

/-- What is made of a text with a configuration, as the arguments ask for it. -/
def Arguments.compile (a : Arguments) (config : Config) (text : String) :
    Except CommandFault Compilation :=
  ((config.interpolator.compile (a.request text)).1.mapError .compile).map fun template =>
    ⟨text, template, (config.interpolator.compile (a.request text)).2⟩

/-- What a rendering of a template in a context answers, and the records. -/
def Compilation.render (c : Compilation) (t : Template) (loaded : Loaded) :
    Rendered × List Record :=
  let (rendered, _, after) :=
    t.renderTo .logging ⟨c.after.1.policy, .empty⟩ loaded.context loaded.store
  (rendered, after.records)

namespace Command

variable (a : Arguments)

/-- The text of the template. -/
def textOf : Command (List Char) := if a.template = "-" then inputText else fileText a.template

/-- What follows when the text is compiled. -/
def finish (c : Compilation) : Command Report :=
  match c.template with
  | none => return ⟨some c.text, .ok 2, c.after.2⟩
  | some t => do
    let (rendered, told) := c.render t (← contextOf a)
    return ⟨rendered, statusOf rendered, c.after.2 ++ told⟩

lemma lift_map_bind {α β γ : Type} (x : Except CommandFault α) (f : α → β) (g : β → Command γ) :
    (lift (x.map f) >>= g) = lift x >>= fun y => g (f y) := by cases x <;> rfl

/-- A plan has four parts: a configuration, a text, what is made of it, and what follows. -/
lemma plan_eq : plan a = (do
    let config ← configOf a
    let text ← textOf a
    finish a (← lift (a.compile config (String.ofList text)))) := by
  refine bind_congr fun config => ?_
  rw [textOf]
  simp only [Arguments.compile, lift_map_bind]
  split <;> rfl

lemma openedIn_configOf (w : World) : (configOf a).openedIn w = a.configFiles := by
  rw [configOf, Arguments.configFiles]
  rcases a.config with _ | path
  · rfl
  obtain rfl | hpath := eq_or_ne path ""
  · rfl
  have hopened := openedIn_bind_lift (w := w) (fileText path)
    fun text => (Config.load text).mapError .config
  rw [openedIn_fileText] at hopened
  simpa [hpath] using hopened

lemma openedIn_textOf (w : World) : (textOf a).openedIn w = a.templateFiles := by
  rw [textOf, Arguments.templateFiles]
  split
  · exact openedIn_bind_lift _ decode
  · exact openedIn_fileText _

end Command

namespace World

variable (w : World) (a : Arguments)

/-- What is made of the text that the arguments lead to in a world. -/
def compiled : Except CommandFault Compilation := do
  let config ← (Command.configOf a).inWorld w
  let text ← (Command.textOf a).inWorld w
  a.compile config (String.ofList text)

/-- The context that the arguments lead to in a world. -/
def context : Except CommandFault Loaded := (Command.contextOf a).inWorld w

/-- The files that a run opens. -/
def opened : List String := (Command.plan a).openedIn w

/-- There are a template and a context, and the rendering answers this. -/
def Renders (r : Rendered) : Prop :=
  ∃ c t loaded, w.compiled a = .ok c ∧ c.template = some t ∧ w.context a = .ok loaded ∧
    (c.render t loaded).1 = r

/-- There is no template because the text, which is this, has no expression. -/
def HasNoTemplate (text : String) : Prop :=
  ∃ c, w.compiled a = .ok c ∧ c.template = none ∧ c.text = text

/-- There is nothing to write because of a fault: there is nothing to compile or it does not
compile, a template has no context, or its rendering raises the fault. -/
inductive Stops : CommandFault → Prop
  | uncompiled {f} (hcompile : w.compiled a = .error f) : Stops f
  | contextless {c t f} (hcompile : w.compiled a = .ok c) (ht : c.template = some t)
    (hcontext : w.context a = .error f) : Stops f
  | raising {f} (h : w.Renders a (.raised f)) : Stops (.raised f)

/-- The ends that a plan can come to, with the text that is to be written. -/
inductive Ends : Option String → Ending → Prop
  /-- The template has a text. -/
  | rendered {text} (h : w.Renders a (.text text)) : Ends (some text) (.status 0)
  /-- The template has no text, and that was reported. -/
  | failing (h : w.Renders a .nothing) : Ends none (.status 1)
  /-- There is no template, because there is no expression. -/
  | useless {text} (h : w.HasNoTemplate a text) : Ends (some text) (.status 2)
  /-- There is a fault. -/
  | stopping {f} (h : w.Stops a f) : Ends none (.failed f)

lemma inWorld_plan : (Command.plan a).inWorld w =
    w.compiled a >>= fun c => (Command.finish a c).inWorld w := by
  simp only [Command.plan_eq, Command.inWorld_bind, Command.inWorld_lift, compiled, bind_assoc]

variable {w a}

/-- What is compiled is a text that can be read, with a configuration that can be read. -/
lemma compiled_eq_ok_iff {c : Compilation} :
    w.compiled a = .ok c ↔ ∃ config text, (Command.configOf a).inWorld w = .ok config ∧
      (Command.textOf a).inWorld w = .ok text ∧
      a.compile config (String.ofList text) = .ok c := by
  rw [compiled]
  cases (Command.configOf a).inWorld w with
  | error f => simp [bind, Except.bind]
  | ok config =>
    cases (Command.textOf a).inWorld w with
    | error f => simp [bind, Except.bind]
    | ok text => simp [bind, Except.bind]

/-- There is a template unless one with an expression is needed. -/
lemma HasNoTemplate.needed {text : String} (h : w.HasNoTemplate a text) :
    a.mustHaveExpression = true := by
  obtain ⟨c, hcompile, ht, -⟩ := h
  obtain ⟨config, text, -, -, h⟩ := compiled_eq_ok_iff.1 hcompile
  have hends := config.interpolator.ends_compile (a.request (String.ofList text))
  cases hresult : (config.interpolator.compile (a.request (String.ofList text))).1 with
  | error f =>
    rw [Arguments.compile, hresult] at h
    cases h
  | ok template =>
    rw [Arguments.compile, hresult] at h
    cases h
    cases ht
    rw [hresult] at hends
    cases hends with
    | useless _ _ _ hneeded => exact hneeded

/-- Without a template no context is opened. -/
lemma HasNoTemplate.opened {text : String} (h : w.HasNoTemplate a text) :
    w.opened a = a.configFiles ++ a.templateFiles := by
  obtain ⟨c, hcompile, ht, -⟩ := h
  obtain ⟨config, text, hconfig, htext, h⟩ := compiled_eq_ok_iff.1 hcompile
  have hlift : (Command.lift (a.compile config (String.ofList text))).inWorld w = .ok c := h
  rw [World.opened, Command.plan_eq, Command.openedIn_bind hconfig, Command.openedIn_configOf,
    Command.openedIn_bind htext, Command.openedIn_textOf, Command.openedIn_bind hlift,
    Command.finish, ht]
  exact congrArg _ (List.append_nil _)

/-- A template is rendered in the context that the arguments lead to. -/
lemma inWorld_finish_some {c : Compilation} {t : Template} (ht : c.template = some t) :
    (Command.finish a c).inWorld w = w.context a >>= fun loaded =>
      .ok ⟨(c.render t loaded).1.text?, Command.statusOf (c.render t loaded).1,
        c.after.2 ++ (c.render t loaded).2⟩ := by
  rw [Command.finish, ht]
  exact Command.inWorld_bind _ _

/-- What a plan with a template and a context comes to. -/
lemma Renders.plan {rendered : Rendered} (h : w.Renders a rendered) :
    ∃ told, (Command.plan a).inWorld w =
      .ok ⟨rendered.text?, Command.statusOf rendered, told⟩ := by
  obtain ⟨c, t, loaded, hcompile, ht, hcontext, rfl⟩ := h
  refine ⟨c.after.2 ++ (c.render t loaded).2, ?_⟩
  rw [inWorld_plan, hcompile]
  show (Command.finish a c).inWorld w = _
  rw [inWorld_finish_some ht, hcontext]
  rfl

/-- **A plan comes to an end that is listed**: to a report, or to a fault. -/
lemma Ends.plan {text : Option String} {ending : Ending} (h : w.Ends a text ending) :
    (∃ r : Report, r.text = text ∧ r.ending = ending ∧ (Command.plan a).inWorld w = .ok r) ∨
    ∃ f, text = none ∧ ending = .failed f ∧ (Command.plan a).inWorld w = .error f := by
  cases h with
  | rendered h =>
    obtain ⟨told, hplan⟩ := h.plan
    exact .inl ⟨_, rfl, rfl, hplan⟩
  | failing h =>
    obtain ⟨told, hplan⟩ := h.plan
    exact .inl ⟨_, rfl, rfl, hplan⟩
  | useless h =>
    obtain ⟨c, hcompile, ht, rfl⟩ := h
    refine .inl ⟨⟨some c.text, .ok 2, c.after.2⟩, rfl, rfl, ?_⟩
    rw [inWorld_plan, hcompile]
    show (Command.finish a c).inWorld w = _
    rw [Command.finish, ht]
    rfl
  | stopping h =>
    cases h with
    | raising h =>
      obtain ⟨told, hplan⟩ := h.plan
      exact .inl ⟨_, rfl, rfl, hplan⟩
    | uncompiled hcompile =>
      refine .inr ⟨_, rfl, rfl, ?_⟩
      rw [inWorld_plan, hcompile]
      rfl
    | @contextless c _ _ hcompile ht hcontext =>
      refine .inr ⟨_, rfl, rfl, ?_⟩
      rw [inWorld_plan, hcompile]
      show (Command.finish a c).inWorld w = _
      rw [inWorld_finish_some ht, hcontext]
      rfl

end World

/-! ## Destinations -/

namespace Files

variable {fs : Files} {path n : String}

/-- Which file a path leads to does not depend on the files that are there. -/
lemma target_eq_name (h : fs.target path = .name n) (fs' : Files) : fs'.target path = .name n := by
  unfold target at h ⊢
  split at h
  · cases h
  split at h
  · cases h
  rw [if_neg ‹_›, if_neg ‹_›]
  split at h
  · cases h
  · split_ifs at h ⊢
    exact h
  · cases h

lemma lookup_filter_ne {m : String} (h : m ≠ n) (entries : List (String × List UInt8)) :
    (entries.filter fun e => e.1 ≠ n).lookup m = entries.lookup m := by
  induction entries with
  | nil => rfl
  | cons e entries ih =>
    rw [List.filter_cons, lookup_cons_eq_ite]
    by_cases he : e.1 = n
    · rw [if_neg (by simpa using he), if_neg (he ▸ h), ih]
    · rw [if_pos (by simpa using he), lookup_cons_eq_ite, ih]

/-- A file that was written has its new content, and the others are what they were. -/
lemma exists_write (h : fs.target path = .name n) (content : List UInt8) :
    ∃ fs', fs.write path content = .ok fs' ∧ fs'.read? path = .ok content ∧
      ∀ m ≠ n, fs'.entries.lookup m = fs.entries.lookup m := by
  refine ⟨_, by rw [write, h], ?_, fun m hm => ?_⟩
  · rw [read?, target_eq_name h]
    simp
  · rw [lookup_cons_eq_ite, if_neg hm, lookup_filter_ne hm]

end Files

namespace World

/-- The destination can be opened and written. -/
def Writable (w : World) (destination : String) : Prop :=
  destination = "-" ∨ ∃ n, w.files.target destination = .name n

/-- The text arrived at its destination in another world, which is the same in all else. -/
structure Receives (w : World) (destination text : String) (after : World) : Prop where
  /-- The standard input is what it was. -/
  input : after.input = w.input
  /-- The standard output has the text if it is the destination. -/
  output : after.output = if destination = "-" then w.output ++ text else w.output
  /-- No file is touched if it is. -/
  untouched : destination = "-" → after.files = w.files
  /-- Otherwise the destination is a file, which has the text. -/
  file : destination ≠ "-" → after.files.read? destination = .ok (utf8Encode text.toList)
  /-- All other files are what they were. -/
  others : ∀ n, w.files.target destination ≠ .name n →
    after.files.entries.lookup n = w.files.entries.lookup n

variable {w : World} {words : List String} {a : Arguments} {destination : String}

/-- The bytes of a text that has any are those of its characters. -/
lemma eq_of_encode {s : List Char} {bytes : List UInt8} (h : encode s = .ok bytes) :
    bytes = utf8Encode s := by
  rw [encode] at h
  split at h
  · exact (Except.ok.inj h).symm
  · cases h

lemma deliver_none {r : Report} (h : r.text = none) :
    w.deliver destination r = (w, r.ending) := by
  rw [deliver, h]

/-- Bytes that are written arrive as the text that has them. -/
lemma exists_write {text : String} (hw : w.Writable destination) (ending : Ending) :
    ∃ after, w.write destination text (utf8Encode text.toList) ending = (after, ending) ∧
      w.Receives destination text after := by
  rw [write]
  by_cases hout : destination = "-"
  · subst hout
    exact ⟨_, if_pos rfl, rfl, rfl, fun _ => rfl, fun h => absurd rfl h, fun _ _ => rfl⟩
  · obtain ⟨n, hn⟩ := hw.resolve_left hout
    obtain ⟨files, hwrite, hread, hothers⟩ := Files.exists_write hn (utf8Encode text.toList)
    refine ⟨{ w with files := files }, ?_, rfl, (if_neg hout).symm, fun h => absurd h hout,
      fun _ => hread, fun m hm => hothers m fun he => hm (he ▸ hn)⟩
    rw [if_neg hout, hwrite]

/-- A text that has bytes arrives. -/
lemma exists_deliver_of_bytes {r : Report} {text : String} {bytes : List UInt8}
    (hw : w.Writable destination) (h : r.text = some text)
    (hbytes : encode text.toList = .ok bytes) :
    ∃ after, w.deliver destination r = (after, r.ending) ∧
      w.Receives destination text after := by
  rw [eq_of_encode hbytes] at hbytes
  simp only [deliver, h, hbytes]
  exact exists_write hw r.ending

/-- A text that has none leaves its destination empty. -/
lemma exists_deliver_of_surrogate {r : Report} {text : String} {f : EncodeFault}
    (hw : w.Writable destination) (h : r.text = some text)
    (hbytes : encode text.toList = .error f) :
    ∃ after, w.deliver destination r = (after, .failed (.unencodable f)) ∧
      w.Receives destination "" after := by
  simp only [deliver, h, hbytes]
  exact exists_write hw _

/-- A run ends as its plan does and writes the text of the plan, unless the text has no bytes. -/
lemma Ends.run {text : Option String} {ending : Ending} (h : w.Ends a text ending)
    (hwords : Request.ofList words = .ok (.run a)) (hw : w.Writable a.output) :
    (text = none → (w.run words).1 = w ∧ (w.run words).2.1 = ending) ∧
    (∀ t bytes, text = some t → encode t.toList = .ok bytes →
      w.Receives a.output t (w.run words).1 ∧ (w.run words).2.1 = ending) ∧
    ∀ t f, text = some t → encode t.toList = .error f →
      w.Receives a.output "" (w.run words).1 ∧ (w.run words).2.1 = .failed (.unencodable f) := by
  obtain ⟨r, rfl, rfl, hplan⟩ | ⟨f, rfl, rfl, hplan⟩ := h.plan
  · rw [Command.inWorld] at hplan
    simp only [World.run, hwords, hplan]
    refine ⟨fun hnone => ?_, fun t bytes ht hbytes => ?_, fun t f ht hbytes => ?_⟩
    · rw [deliver_none hnone]
      exact ⟨rfl, rfl⟩
    · obtain ⟨after, hdeliver, hreceives⟩ := exists_deliver_of_bytes hw ht hbytes
      rw [hdeliver]
      exact ⟨hreceives, rfl⟩
    · obtain ⟨after, hdeliver, hreceives⟩ := exists_deliver_of_surrogate hw ht hbytes
      rw [hdeliver]
      exact ⟨hreceives, rfl⟩
  · rw [Command.inWorld] at hplan
    simp [World.run, hwords, hplan]

end World

end Interpolation.CommandLine
