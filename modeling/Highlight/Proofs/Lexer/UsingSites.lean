import Highlight.Grammar.Basic

/-!
# What a `using` site keeps

A rule that lexes its match with another language (a `using` site) keeps one set of options
for the whole process. Each lexer that uses the site puts its own options over the ones kept
and leaves the result there (`Env.usingOptions`), so the options a nested lexer gets are not
only those written at the site under those of the lexer that uses it: every lexer of the same
grammar that used the site before leaves the names it set, the latest winning
(`Env.usingOptions_lookup_after_uses`). A name is looked up in the options of the lexer that
uses the site, then in those of the lexers before it, newest first, then in the options
written at the site.
-/

set_option autoImplicit false

namespace Highlight

theorem Options.lookup_under (opts extra : Options) (k : String) :
    (opts.under extra).lookup k = (opts.lookup k).or (extra.lookup k) := by
  simp only [Options.under, List.lookup_append]
  cases hk : opts.lookup k with
  | some v => rfl
  | none =>
    -- the entries that the filter drops are named in `opts`, so none of them is named `k`
    simp only [Option.none_or]
    induction extra with
    | nil => rfl
    | cons p extra ih =>
      obtain ⟨k', v'⟩ := p
      rw [List.filter_cons]
      by_cases hkk : k = k'
      · subst hkk
        simp only [hk, Option.isNone_none, if_true, List.lookup_cons, beq_self_eq_true]
      · have hne : (k == k') = false := by simpa using hkk
        split <;> simp only [List.lookup_cons, hne, ih]

theorem Cursor.recallShared_share_ne (c : Cursor) {key key' : String} (v : Memo)
    (hne : key ≠ key') : (c.share key' v).recallShared key = c.recallShared key := by
  have hb : (key == key') = false := beq_eq_false_iff_ne.mpr hne
  simp only [Cursor.share, Cursor.recallShared, List.lookup_cons, hb]
  -- the entries the filter drops are named `key'`, so the first one named `key` stays
  induction c.shared with
  | nil => rfl
  | cons p rest ih =>
    obtain ⟨k', v'⟩ := p
    by_cases hk : k' = key'
    · subst hk
      simp [List.lookup_cons, hb, ih]
    · by_cases hkey : key = k'
      · subst hkey
        simp [hk]
      · have hkk : (key == k') = false := beq_eq_false_iff_ne.mpr hkey
        simp [hk, List.lookup_cons, hkk, ih]

@[simp] theorem Cursor.keptOptions_share (c : Cursor) (key : String) (o written : Options) :
    (c.share key (.options o)).keptOptions key written = o := by
  simp [Cursor.keptOptions, Cursor.recallShared, Cursor.share]

namespace Env

variable {site : String} {language : Option String} {stack : Option (List String)}
  {options : Options}

/-- A site with a language of its own or options of its own lexes with the options of the
lexer that uses it put over those it keeps, and keeps the result. -/
theorem usingOptions_of_merge (env : Env) (c : Cursor)
    (hmerge : (language.isNone && options.isEmpty) = false) :
    env.usingOptions c site language stack options =
      (env.options.under (c.keptOptions (usingKey site) options),
        c.share (usingKey site)
          (.options (env.options.under (c.keptOptions (usingKey site) options)))) := by
  simp only [usingOptions, hmerge, Bool.false_eq_true, if_false]

/-- Uses of one site, one after another, from a cursor where it keeps `kept`: each lexer's
options go over what the site keeps, and the site keeps what the last use lexed with. The
induction is on the lexers. -/
theorem usingOptions_uses (hmerge : (language.isNone && options.isEmpty) = false) :
    ∀ (envs : List Env) (kept : Options) (c : Cursor),
      c.keptOptions (usingKey site) options = kept →
        let r := envs.foldl (fun p e => e.usingOptions p.2 site language stack options) (kept, c)
        r.1 = envs.foldl (fun kept e => e.options.under kept) kept ∧
          r.2.keptOptions (usingKey site) options = r.1
  | [], kept, c, hkept => ⟨rfl, hkept⟩
  | e :: envs, kept, c, hkept => by
    -- the first use puts `e`'s options over what the site keeps, and keeps them
    have hfirst : e.usingOptions c site language stack options =
        (e.options.under kept, c.share (usingKey site) (.options (e.options.under kept))) := by
      rw [usingOptions_of_merge e c hmerge, hkept]
    simp only [List.foldl_cons, hfirst]
    exact usingOptions_uses hmerge envs _ _ (Cursor.keptOptions_share ..)

theorem lookup_foldl_under (k : String) : ∀ (envs : List Env) (kept : Options),
    (envs.foldl (fun kept e => e.options.under kept) kept).lookup k =
      (envs.reverse.findSome? fun e => e.options.lookup k).or (kept.lookup k)
  | [], kept => by simp
  | e :: envs, kept => by
    rw [List.foldl_cons, lookup_foldl_under k envs, Options.lookup_under, List.reverse_cons,
      List.findSome?_append, Option.or_assoc]
    simp

/-- **A `using` site lexes with the options of every lexer that used it.** When lexers use one
site with a language or options of its own, one after another in a process that has not used
it before, the options the last of them lexes with look every name up in that lexer's options,
then in the options of the lexers before it, newest first, and only then in the options
written at the site. -/
theorem usingOptions_lookup_after_uses (hmerge : (language.isNone && options.isEmpty) = false)
    (envs : List Env) (c : Cursor) (hfresh : c.recallShared (usingKey site) = none)
    (k : String) :
    (envs.foldl (fun p e => e.usingOptions p.2 site language stack options) (options, c)).1.lookup
        k = (envs.reverse.findSome? fun e => e.options.lookup k).or (options.lookup k) := by
  have hkept : c.keptOptions (usingKey site) options = options := by
    simp only [Cursor.keptOptions, hfresh]
  rw [(usingOptions_uses hmerge envs options c hkept).1, lookup_foldl_under]

/-- A use of one site leaves what every other site keeps as it was, so two rules written alike
keep two sets of options. -/
theorem recallShared_usingOptions_of_ne {site' : String} (env : Env) (c : Cursor)
    (hne : site' ≠ site) :
    (env.usingOptions c site language stack options).2.recallShared (usingKey site') =
      c.recallShared (usingKey site') := by
  have hkey : usingKey site' ≠ usingKey site := fun h =>
    hne ((String.append_right_inj _).mp h)
  unfold usingOptions
  split
  · rfl
  · exact Cursor.recallShared_share_ne c _ hkey

/-- A Csound orchestra lexer that turns Lua function names off. -/
def csoundNamesOff : Env :=
  { options := [("func_name_highlighting", .bool false)]
    sublex := fun _ _ _ _ m => ([], m) }

/-- A Csound orchestra lexer that sets no options. -/
def csoundPlain : Env := { options := [], sublex := fun _ _ _ _ m => ([], m) }

/-- The site of the Csound orchestra grammar that lexes Lua code (the second rule of its state
`Lua`, in rule text 300), used first by a lexer that
turns function names off and then by one that sets nothing: the second lexes Lua with
function names turned off. -/
theorem luaSite_keeps_function_names_off :
    (((some "LuaLexer").isNone && ([] : Options).isEmpty) = false) ∧
      (⟨0, ["root"], 0, [], []⟩ : Cursor).recallShared (usingKey "300/Lua/1") = none ∧
      ([csoundNamesOff, csoundPlain].foldl
          (fun p e => e.usingOptions p.2 "300/Lua/1" (some "LuaLexer") none [])
          ([], ⟨0, ["root"], 0, [], []⟩)).1.lookup "func_name_highlighting" =
        some (.bool false) := by
  refine ⟨rfl, rfl, ?_⟩
  rw [usingOptions_lookup_after_uses rfl _ _ rfl]
  rfl

end Env

end Highlight
