import Interpolation.Proofs.Scan.Leftmost
import Interpolation.Proofs.Trust.Allowlist

/-!
# What the word for the page itself lets through

The word `self` accepts a URL when the splitting finds neither a scheme nor an authority in it.  A
page that loads the URL splits it in its own way: it reads a backslash as a slash, and it takes any
two slashes at the beginning for those of an authority, also when nothing stands between them and
the next slash.  On schemes the two ways agree, since no scheme has a slash in it.  On authorities
they do not, and `Url.Disguised` lists the beginnings on which they differ.

* `Url.asRead` — a URL as the page reads it.
* `Url.namesScheme_slashed_iff`, `Url.namesHost_slashed_iff` — what reading backslashes as slashes
  does to schemes and hosts.
* `Policy.allows_self_iff` — which URLs the word accepts.
* **`Policy.self_stays_on_host`** — what it accepts names no other host, unless it is disguised.
-/

namespace Interpolation

open Text Trust

namespace Trust.Url

variable {s : List Char}

/-! ## The URL as the page reads it -/

/-- A text in which every backslash before the first question mark or hash is read as a slash. -/
def slashed : List Char → List Char
  | [] => []
  | c :: s => if c = '?' ∨ c = '#' then c :: s else (if c = '\\' then '/' else c) :: slashed s

/-- A URL as a page reads it: without control characters and blanks in front, without tabulators
and line ends, and with backslashes read as slashes. -/
def asRead (s : List Char) : List Char :=
  slashed ((s.dropWhile (· ≤ ' ')).filter (· ∉ ['\t', '\n', '\r']))

/-- A text begins with a scheme and a colon: a letter and more characters of schemes. -/
def NamesScheme (s : List Char) : Prop :=
  ∃ scheme, scheme ++ [':'] <+: s ∧ (∃ c ∈ scheme.head?, c.isAlpha = true) ∧
    ∀ c ∈ scheme, isSchemeChar c = true

/-- A text begins with two slashes, behind which a host is looked for. -/
def NamesHost (s : List Char) : Prop := ['/', '/'] <+: s

/-- A slash, or a backslash that is read as one. -/
def IsSlash (c : Char) : Prop := c = '/' ∨ c = '\\'

/-- A text that begins with two slashes once backslashes are read as such, although the splitting
finds no authority in it: because one of the two is a backslash, or because the authority between
them and the next separator is empty. -/
inductive Disguised : List Char → Prop
  | backslash {c d : Char} (rest : List Char) (hc : IsSlash c) (hd : IsSlash d)
    (h : c = '\\' ∨ d = '\\') : Disguised (c :: d :: rest)
  | noAuthority {rest : List Char} (h : ∀ c ∈ rest.head?, c = '/' ∨ c = '?' ∨ c = '#') :
    Disguised ('/' :: '/' :: rest)

/-- The page drops the same characters as the splitting. -/
lemma asRead_eq (s : List Char) : asRead s = slashed (cleaned s) := by
  rw [asRead, cleaned]
  congr 2
  funext c
  rw [Bool.eq_iff_iff]
  simp [and_assoc]

/-! ## Schemes -/

/-- What has neither slashes nor backslashes in it, nor the beginning of a query or a fragment, is
found at the beginning of a text whether backslashes are read as slashes or not. -/
lemma isPrefix_slashed_iff {t : List Char} (h : ∀ c ∈ t, c ∉ ['/', '\\', '?', '#']) :
    t <+: slashed s ↔ t <+: s := by
  induction t generalizing s with
  | nil => exact iff_of_true List.nil_prefix List.nil_prefix
  | cons c t ih =>
    obtain ⟨hc, h⟩ := List.forall_mem_cons.1 h
    cases s with
    | nil => rfl
    | cons d s =>
      simp only [List.mem_cons, List.not_mem_nil, or_false, not_or] at hc
      obtain ⟨hslash, hbackslash, hmark, hhash⟩ := hc
      rw [slashed]
      split_ifs with hstop hd
      · rfl
      · subst hd
        simp only [List.cons_prefix_cons, hslash, hbackslash, false_and]
      · simp only [List.cons_prefix_cons, ih h]

/-- A scheme has no slash in it, so it is a scheme however backslashes are read. -/
lemma namesScheme_slashed_iff : NamesScheme (slashed s) ↔ NamesScheme s := by
  refine exists_congr fun scheme => and_congr_left fun ⟨_, hall⟩ => isPrefix_slashed_iff ?_
  intro c hc hmem
  rw [List.mem_append, List.mem_singleton] at hc
  obtain hc | rfl := hc
  · have hchar := hall c hc
    simp only [List.mem_cons, List.not_mem_nil, or_false] at hmem
    obtain rfl | rfl | rfl | rfl := hmem <;> revert hchar <;> decide
  · revert hmem
    decide

/-- The splitting finds a scheme where there is one. -/
lemma splitScheme_of_namesScheme (h : NamesScheme s) : (splitScheme s).1 ≠ [] := by
  obtain ⟨scheme, ⟨rest, rfl⟩, ⟨c, hhead, hc⟩, hall⟩ := h
  have hcolon : ':' ∉ scheme := fun hmem => absurd (hall ':' hmem) (by decide)
  have hcut : cut? [':'] (scheme ++ [':'] ++ rest) = some (scheme, rest) :=
    cut?_eq_some_iff.2 ⟨rfl, leftmostAfter_singleton hcolon⟩
  rw [splitScheme, hcut]
  dsimp only
  rw [if_pos]
  · cases scheme with
    | nil => cases hhead
    | cons d scheme => simp
  · rw [Option.mem_def.1 hhead, Bool.and_eq_true, List.all_eq_true]
    exact ⟨hc, hall⟩

/-- The splitting finds a scheme only where there is one. -/
lemma splitScheme_of_not_namesScheme (h : ¬ NamesScheme s) : splitScheme s = ([], s) := by
  rw [splitScheme]
  split
  · next scheme rest hcut =>
    rw [if_neg]
    intro hscheme
    rw [Bool.and_eq_true, List.all_eq_true] at hscheme
    refine h ⟨scheme, ⟨rest, (cut?_eq_some hcut).symm⟩, ?_, hscheme.2⟩
    cases scheme with
    | nil => cases hscheme.1
    | cons c scheme => exact ⟨c, rfl, hscheme.1⟩
  · rfl

/-- What the splitting finds, if the authority is not refused. -/
lemma ofText_eq_ok {u : Url} (h : ofText s = .ok u) :
    u.scheme = (splitScheme (cleaned s)).1 ∧
      u.authority = authorityOf (splitScheme (cleaned s)).2 := by
  simp only [ofText, bind, Except.bind] at h
  split at h
  · cases h
  · split at h
    · cases h
    · cases h
      exact ⟨rfl, rfl⟩

/-! ## Hosts -/

/-- A slash is read where there is a slash or a backslash. -/
lemma cons_prefix_slashed_iff {t : List Char} :
    '/' :: t <+: slashed s ↔ ∃ c rest, s = c :: rest ∧ IsSlash c ∧ t <+: slashed rest := by
  cases s with
  | nil => simp [slashed]
  | cons c s =>
    simp only [List.cons.injEq, IsSlash]
    rw [slashed]
    split_ifs with hstop hback
    · refine iff_of_false (fun h => ?_) ?_
      · obtain rfl := (List.cons_prefix_cons.1 h).1
        revert hstop
        decide
      · rintro ⟨_, _, ⟨rfl, rfl⟩, rfl | rfl, -⟩ <;> revert hstop <;> decide
    · rw [List.cons_prefix_cons]
      constructor
      · rintro ⟨-, h⟩
        exact ⟨c, s, ⟨rfl, rfl⟩, .inr hback, h⟩
      · rintro ⟨_, _, ⟨rfl, rfl⟩, -, h⟩
        exact ⟨rfl, h⟩
    · rw [List.cons_prefix_cons]
      constructor
      · rintro ⟨rfl, h⟩
        exact ⟨_, s, ⟨rfl, rfl⟩, .inl rfl, h⟩
      · rintro ⟨_, _, ⟨rfl, rfl⟩, hc, h⟩
        exact ⟨(hc.resolve_right hback).symm, h⟩

/-- Two slashes are read at the beginning where there are two slashes or backslashes. -/
lemma namesHost_slashed_iff :
    NamesHost (slashed s) ↔ ∃ c d rest, s = c :: d :: rest ∧ IsSlash c ∧ IsSlash d := by
  rw [NamesHost, cons_prefix_slashed_iff]
  constructor
  · rintro ⟨c, _, rfl, hc, h⟩
    obtain ⟨d, rest, rfl, hd, -⟩ := cons_prefix_slashed_iff.1 h
    exact ⟨c, d, rest, rfl, hc, hd⟩
  · rintro ⟨c, d, rest, rfl, hc, hd⟩
    exact ⟨c, _, rfl, hc, cons_prefix_slashed_iff.2 ⟨d, rest, rfl, hd, List.nil_prefix⟩⟩

lemma authorityOf_eq_nil_iff {rest : List Char} :
    authorityOf ('/' :: '/' :: rest) = [] ↔ ∀ c ∈ rest.head?, c = '/' ∨ c = '?' ∨ c = '#' := by
  cases rest with
  | nil => simp [authorityOf]
  | cons c rest =>
    simp only [authorityOf, List.takeWhile_cons, List.head?_cons, Option.mem_some_iff]
    grind

/-- **The two ways of reading differ on the disguised beginnings**: the page finds two slashes, and
the splitting no authority. -/
lemma disguised_iff : Disguised s ↔ NamesHost (slashed s) ∧ authorityOf s = [] := by
  rw [namesHost_slashed_iff]
  constructor
  · rintro (⟨rest, hc, hd, h⟩ | ⟨h⟩)
    · refine ⟨⟨_, _, rest, rfl, hc, hd⟩, ?_⟩
      rw [authorityOf]
      rintro t ⟨⟩
      simp at h
    · exact ⟨⟨_, _, _, rfl, .inl rfl, .inl rfl⟩, authorityOf_eq_nil_iff.2 h⟩
  · rintro ⟨⟨c, d, rest, rfl, hc, hd⟩, h⟩
    by_cases hback : c = '\\' ∨ d = '\\'
    · exact .backslash rest hc hd hback
    · obtain rfl := hc.resolve_right (mt .inl hback)
      obtain rfl := hd.resolve_right (mt .inr hback)
      exact .noAuthority (authorityOf_eq_nil_iff.1 h)

lemma Disguised.not_namesScheme (h : Disguised s) : ¬ NamesScheme s := by
  obtain ⟨c, d, rest, rfl, hc, -⟩ := namesHost_slashed_iff.1 (disguised_iff.1 h).1
  rintro ⟨scheme, hbegins, ⟨e, hhead, he⟩, -⟩
  cases scheme with
  | nil => cases hhead
  | cons f scheme =>
    obtain rfl := Option.some.inj hhead
    obtain ⟨rfl, -⟩ := List.cons_prefix_cons.1 hbegins
    obtain rfl | rfl := hc <;> revert he <;> decide

end Trust.Url

namespace Policy

variable {url : String}

/-- The word for the page itself accepts a URL in which the splitting finds neither part; the checks
of the authority do not matter, as they pass on an empty one. -/
lemma allows_self_iff :
    (⟨[self]⟩ : Policy).allows url = .ok true ↔
      ¬ Url.NamesScheme (Url.cleaned url.toList) ∧
        Url.authorityOf (Url.cleaned url.toList) = [] := by
  have hlist : (⟨[self]⟩ : Policy).allows url = .ok true ↔ Accepts url self := by
    rw [← entryAccepts_eq_true_iff, allows, someAccepts]
    rcases entryAccepts self url with _ | _ | _ <;>
      simp [someAccepts, bind, Except.bind, pure, Except.pure]
  rw [hlist]
  constructor
  · rintro (⟨hu, hscheme, hauthority⟩ | ⟨hself, -⟩)
    · obtain ⟨hfst, hsnd⟩ := Url.ofText_eq_ok hu
      have hnone : ¬ Url.NamesScheme (Url.cleaned url.toList) := fun h =>
        Url.splitScheme_of_namesScheme h (hfst.symm.trans hscheme)
      rw [Url.splitScheme_of_not_namesScheme hnone] at hsnd
      exact ⟨hnone, hsnd.symm.trans hauthority⟩
    · exact absurd rfl hself
  · rintro ⟨hscheme, hauthority⟩
    have hu : Url.ofText url.toList = .ok ⟨[], []⟩ := by
      rw [Url.ofText, Url.splitScheme_of_not_namesScheme hscheme]
      simp only [hauthority]
      rfl
    exact .relative hu rfl rfl

/-- **What the word for the page itself accepts names no other host, unless it is disguised.**

A URL that the list with this word alone accepts is handed on as it is where a resource is asked
for.  As the page reads it, it never begins with a scheme, and it begins with two slashes exactly if
it is disguised: if one of the two was written as a backslash, or if the splitting finds an empty
authority between them and the next separator.  All disguised URLs are accepted. -/
theorem self_stays_on_host (url : String) :
    ((⟨[self]⟩ : Policy).allows url = .ok true →
      ¬ Url.NamesScheme (Url.asRead url.toList) ∧
      (Url.NamesHost (Url.asRead url.toList) ↔ Url.Disguised (Url.cleaned url.toList)) ∧
      ∀ (e : Environment) (futures : Futures) (v : Value) (w : Work), v.text? = some url →
        ((⟨[self]⟩ : Policy).getTrusted e futures .resourceUrl v).outcome w = (.ok v, w)) ∧
    (Url.Disguised (Url.cleaned url.toList) →
      (⟨[self]⟩ : Policy).allows url = .ok true ∧ Url.NamesHost (Url.asRead url.toList)) := by
  rw [Url.asRead_eq, Url.namesScheme_slashed_iff, Url.disguised_iff]
  constructor
  · intro hallows
    obtain ⟨hscheme, hauthority⟩ := allows_self_iff.1 hallows
    refine ⟨hscheme, (and_iff_left hauthority).symm, fun e futures v w hurl => ?_⟩
    have hv : v.unwrapped = pure v := unwrapped_of_not_trusted (not_trusted_of_text hurl)
    exact (outcome_getTrusted_eq_ok_iff (by decide)).2
      ⟨.allowed rfl hurl hallows, by rw [hv]; rfl, rfl⟩
  · intro h
    exact ⟨allows_self_iff.2 ⟨(Url.disguised_iff.2 h).not_namesScheme, h.2⟩, h.1⟩

/-- An address on the page's own host, and one that the page looks for on another host. -/
theorem self_stays_on_host_backslash :
    ¬ Url.NamesScheme (Url.asRead "img/logo.png".toList) ∧
      ¬ Url.Disguised (Url.cleaned "img/logo.png".toList) ∧
      (⟨[self]⟩ : Policy).allows "/\\evil.example/x.js" = .ok true ∧
      Url.NamesHost (Url.asRead "/\\evil.example/x.js".toList) := by
  obtain ⟨hscheme, hhost, -⟩ := (self_stays_on_host "img/logo.png").1 (by decide +kernel)
  have hdisguised : Url.Disguised (Url.cleaned "/\\evil.example/x.js".toList) :=
    .backslash _ (.inl rfl) (.inr rfl) (.inr rfl)
  refine ⟨hscheme, fun h => absurd (hhost.2 h) ?_, (self_stays_on_host _).2 hdisguised⟩
  rw [Url.NamesHost]
  decide +kernel

end Policy

end Interpolation
