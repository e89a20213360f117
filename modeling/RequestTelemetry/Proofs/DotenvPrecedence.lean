import Mathlib.Data.List.TakeWhile
import RequestTelemetry.Log
import RequestTelemetry.Proofs.DotenvEntries
import RequestTelemetry.Proofs.VariablesInAnyOrder

/-!
# The process environment before a `.env` file

Loading a file carries out its entries up to the first malformed one. Each sets its variable if it
is not set yet, to a value that may refer to all variables set so far, so that a variable of the
process keeps its value, and a variable of the file has the value of its first assignment.

As no entry changes what is set, loading only adds variables. A configuration that is loaded from
the variables therefore keeps the settings that the process made, and to load a file again does
nothing.
-/

namespace RequestTelemetry

namespace Environment

/-- Setting what is not set yet adds a variable or nothing. -/
theorem prefix_setIfNew (env : Environment) (name value : String) :
    env.vars <+: (env.setIfNew name value).vars := by
  rw [setIfNew]
  split
  · exact List.prefix_refl _
  · next hnew =>
    rw [set, if_neg hnew]
    exact List.prefix_append _ _

/-- Variables that are added hide none of those before them. -/
theorem get?_of_prefix {env env' : Environment} (h : env.vars <+: env'.vars) {name value : String}
    (hvalue : env.get? name = some value) : env'.get? name = some value := by
  obtain ⟨added, hadded⟩ := h
  rw [get?] at hvalue
  rw [get?, ← hadded, List.lookup_append, hvalue, Option.some_or]

end Environment

namespace Dotenv

/-! ## One entry -/

/-- Why an entry is malformed, if it is. -/
def fault? (entry : Except Error (List Char)) : Option Error :=
  match target entry with
  | .error cause => some cause
  | .ok _ => none

theorem fault?_eq_none_of_target {entry : Except Error (List Char)} {t : Option String}
    (h : target entry = .ok t) : fault? entry = none := by
  rw [fault?, h]

/-- What references stand for: the values of variables, and nothing for one that is not set. -/
def valueOf (env : Environment) (name : String) : String := (env.get? name).getD ""

/-- Carries out an entry. -/
def perform (env : Environment) (entry : Except Error (List Char)) : Environment :=
  match readEntry (valueOf env) entry with
  | .ok (some (name, value)) => env.setIfNew name value
  | _ => env

variable {env : Environment} {entry : Except Error (List Char)} {name value : String}

theorem perform_of_readEntry (h : readEntry (valueOf env) entry = .ok (some (name, value))) :
    perform env entry = env.setIfNew name value := by
  rw [perform, h]

theorem prefix_perform (env : Environment) (entry : Except Error (List Char)) :
    env.vars <+: (perform env entry).vars := by
  rw [perform]
  split
  · exact env.prefix_setIfNew _ _
  · exact List.prefix_refl _

/-- An entry leaves all variables but its own alone. -/
theorem get?_perform (h : target entry ≠ .ok (some name)) :
    (perform env entry).get? name = env.get? name := by
  rw [perform]
  split
  · next other value hread =>
    have hother : name ≠ other := by
      rintro rfl
      exact h ((target_eq_some_iff _).mpr ⟨value, hread⟩)
    rw [Environment.get?_setIfNew, if_neg hother]
  · rfl

/-- After an entry its variable is set. -/
theorem contains_perform (env : Environment) (h : target entry = .ok (some name)) :
    (perform env entry).contains name := by
  obtain ⟨value, hread⟩ := (target_eq_some_iff (valueOf env)).mp h
  rw [perform_of_readEntry hread, Environment.contains, Environment.get?_setIfNew, if_pos rfl]
  rfl

/-- An entry whose variable is set does nothing. -/
theorem perform_of_contains (h : ∀ name, target entry = .ok (some name) → env.contains name) :
    perform env entry = env := by
  rw [perform]
  split
  · next name value hread =>
    rw [Environment.setIfNew, if_pos (h name ((target_eq_some_iff _).mpr ⟨value, hread⟩))]
  · rfl

/-- A malformed entry ends the loading, any other is carried out. -/
theorem assign_cons (env : Environment) (entry : Except Error (List Char))
    (rest : List (Except Error (List Char))) :
    assign env (entry :: rest) =
      (fault? entry).elim (assign (perform env entry) rest) fun cause ↦ (env, some cause) := by
  rcases entry with cause | text
  · rfl
  have hassign : readEntry (valueOf env) (.ok text) =
      readAssignment (fun name ↦ (env.get? name).getD "") text := rfl
  rw [fault?, perform, assign, ← hassign]
  rcases hread : readEntry (valueOf env) (.ok text) with cause | _ | ⟨name, value⟩
  · rw [(target_eq_error_iff _).mpr hread]
    rfl
  · rw [(target_eq_none_iff _).mpr hread]
    rfl
  · rw [(target_eq_some_iff _).mpr ⟨value, hread⟩]
    rfl

/-! ## All entries -/

/-- The entries before the first malformed one. -/
def sound (es : List (Except Error (List Char))) : List (Except Error (List Char)) :=
  es.takeWhile fun entry ↦ (fault? entry).isNone

theorem sound_cons (entry : Except Error (List Char)) (rest : List (Except Error (List Char))) :
    sound (entry :: rest) = (fault? entry).elim (entry :: sound rest) fun _ ↦ [] := by
  rw [sound, List.takeWhile_cons]
  rcases fault? entry with _ | cause <;> rfl

/-- Loading carries out the entries before the first malformed one, and reports that one. -/
theorem assign_eq (env : Environment) (es : List (Except Error (List Char))) :
    assign env es = ((sound es).foldl perform env, es.findSome? fault?) := by
  induction es generalizing env with
  | nil => rfl
  | cons entry rest ih =>
    rw [assign_cons, sound_cons, List.findSome?_cons]
    rcases fault? entry with _ | cause
    · exact ih (perform env entry)
    · rfl

variable {es before rest : List (Except Error (List Char))}

theorem sound_append (h : ∀ e ∈ before, fault? e = none) (rest : List (Except Error (List Char))) :
    sound (before ++ rest) = before ++ sound rest :=
  List.takeWhile_append_of_pos fun e he ↦ Option.isNone_iff_eq_none.mpr (h e he)

theorem sound_eq_self (h : ∀ e ∈ es, fault? e = none) : sound es = es := by
  have hnil : sound [] = [] := rfl
  have hsound := sound_append h []
  rwa [hnil, List.append_nil] at hsound

theorem fault?_eq_none_of_mem_sound (h : entry ∈ sound es) : fault? entry = none :=
  Option.isNone_iff_eq_none.mp (List.mem_takeWhile_imp (p := fun e ↦ (fault? e).isNone) h)

theorem assign_of_sound (env : Environment) (h : ∀ e ∈ es, fault? e = none) :
    assign env es = (es.foldl perform env, none) := by
  rw [assign_eq, sound_eq_self h, List.findSome?_eq_none_iff.mpr h]

/-- The first malformed entry ends the loading, and nothing after it takes part. -/
theorem assign_of_fault (env : Environment) (h : ∀ e ∈ before, fault? e = none) {cause : Error}
    (hfault : fault? entry = some cause) (rest : List (Except Error (List Char))) :
    assign env (before ++ entry :: rest) = ((assign env before).1, some cause) := by
  rw [assign_of_sound env h, assign_eq, sound_append h, sound_cons, hfault, Option.elim_some,
    List.append_nil, List.findSome?_append, List.findSome?_eq_none_iff.mpr h, List.findSome?_cons,
    hfault, Option.none_or]

/-! ### What a run of entries leaves -/

/-- Carrying out entries only adds variables. -/
theorem prefix_foldl_perform (env : Environment) (es : List (Except Error (List Char))) :
    env.vars <+: (es.foldl perform env).vars := by
  induction es generalizing env with
  | nil => exact List.prefix_refl _
  | cons entry rest ih => exact (prefix_perform env entry).trans (ih (perform env entry))

/-- A variable that no entry assigns is left alone. -/
theorem get?_foldl_perform (h : ∀ e ∈ es, target e ≠ .ok (some name)) :
    (es.foldl perform env).get? name = env.get? name := by
  induction es generalizing env with
  | nil => rfl
  | cons entry rest ih =>
    rw [List.foldl_cons, ih fun e he ↦ h e (List.mem_cons_of_mem _ he),
      get?_perform (h entry List.mem_cons_self)]

/-- Entries whose variables are set do nothing. -/
theorem foldl_perform_of_contains
    (h : ∀ e ∈ es, ∀ name, target e = .ok (some name) → env.contains name) :
    es.foldl perform env = env := by
  induction es with
  | nil => rfl
  | cons entry rest ih =>
    rw [List.foldl_cons, perform_of_contains (h entry List.mem_cons_self),
      ih fun e he ↦ h e (List.mem_cons_of_mem _ he)]

/-- After a run the variables of its entries are set. -/
theorem contains_foldl_perform (hmem : entry ∈ es) (h : target entry = .ok (some name)) :
    (es.foldl perform env).contains name := by
  obtain ⟨before, rest, rfl⟩ := List.append_of_mem hmem
  obtain ⟨value, hvalue⟩ := Option.isSome_iff_exists.mp
    (contains_perform (before.foldl perform env) h)
  rw [List.foldl_append, List.foldl_cons]
  exact Option.isSome_of_eq_some (Environment.get?_of_prefix (prefix_foldl_perform _ rest) hvalue)

/-- Of the entries that assign a variable one is the first. -/
theorem exists_first_assignment (h : ∃ e ∈ es, target e = .ok (some name)) :
    ∃ before entry rest, es = before ++ entry :: rest ∧
      (∀ e ∈ before, target e ≠ .ok (some name)) ∧ target entry = .ok (some name) := by
  have hfound : (es.find? fun e ↦ target e = .ok (some name)).isSome := by
    obtain ⟨e, he, htarget⟩ := h
    exact List.find?_isSome.mpr ⟨e, he, decide_eq_true htarget⟩
  obtain ⟨entry, hfirst⟩ := Option.isSome_iff_exists.mp hfound
  obtain ⟨hentry, before, rest, rfl, hbefore⟩ := List.find?_eq_some_iff_append.mp hfirst
  exact ⟨before, entry, rest, rfl, by simpa using hbefore, of_decide_eq_true hentry⟩

/-- A new variable has the value of its first assignment. -/
theorem get?_of_first_assignment (hnew : env.get? name = none)
    (hbefore : ∀ e ∈ before, target e ≠ .ok (some name))
    (hread : readEntry (valueOf (before.foldl perform env)) entry = .ok (some (name, value)))
    (rest : List (Except Error (List Char))) :
    ((before ++ entry :: rest).foldl perform env).get? name = some value := by
  have hstill : (before.foldl perform env).get? name = none := by
    rw [get?_foldl_perform hbefore, hnew]
  rw [List.foldl_append, List.foldl_cons]
  apply Environment.get?_of_prefix (prefix_foldl_perform _ rest)
  rw [perform_of_readEntry hread, Environment.get?_setIfNew, if_pos rfl, hstill, Option.getD_none]

/-- A new variable is set by its first assignment, and by nothing else. -/
theorem get?_foldl_perform_eq_some_iff (hnew : env.get? name = none) :
    (es.foldl perform env).get? name = some value ↔
      ∃ before entry rest, es = before ++ entry :: rest ∧
        (∀ e ∈ before, target e ≠ .ok (some name)) ∧
          readEntry (valueOf (before.foldl perform env)) entry = .ok (some (name, value)) := by
  constructor
  · intro hvalue
    have hassigned : ∃ e ∈ es, target e = .ok (some name) := by
      by_contra! hnot
      rw [get?_foldl_perform hnot, hnew] at hvalue
      exact Option.some_ne_none _ hvalue.symm
    obtain ⟨before, entry, rest, rfl, hbefore, htarget⟩ := exists_first_assignment hassigned
    obtain ⟨w, hread⟩ := (target_eq_some_iff (valueOf (before.foldl perform env))).mp htarget
    -- this entry gives the variable its value, so it is the one that the variable has
    have hw := get?_of_first_assignment hnew hbefore hread rest
    rw [hvalue] at hw
    obtain rfl := Option.some.inj hw
    exact ⟨before, entry, rest, rfl, hbefore, hread⟩
  · rintro ⟨before, entry, rest, rfl, hbefore, hread⟩
    exact get?_of_first_assignment hnew hbefore hread rest

end Dotenv

/-! ## Loading -/

open Dotenv Tracking Tracking.Config

variable {env : Environment}

/-- What loading a file leaves is what its entries before the first malformed one leave. -/
theorem loadDotenv_some (env : Environment) (content : Bytes) :
    loadDotenv env (some content) = ((sound (entries content)).foldl perform env,
      [((entries content).findSome? fault?).elim .dotenvLoaded .dotenvFailed]) := by
  have hload : load env content = _ := assign_eq env (entries content)
  rw [loadDotenv, hload]
  rcases (entries content).findSome? fault? with _ | cause <;> rfl

theorem prefix_loadDotenv (env : Environment) (file : Option Bytes) :
    env.vars <+: (loadDotenv env file).1.vars := by
  rcases file with _ | content
  · exact List.prefix_refl _
  · rw [loadDotenv_some]
    exact prefix_foldl_perform env _

/-- After a file is loaded, its entries before the first malformed one have nothing left to set. -/
theorem loadDotenv_loadDotenv (env : Environment) (file : Option Bytes) :
    loadDotenv (loadDotenv env file).1 file = loadDotenv env file := by
  rcases file with _ | content
  · rfl
  rw [loadDotenv_some env, loadDotenv_some, foldl_perform_of_contains]
  exact fun e he name htarget ↦ contains_foldl_perform he htarget

/-- The value that a new variable has, or that it has none. -/
theorem get?_loadDotenv_eq_some_iff {content : Bytes} {name value : String}
    (hnew : env.get? name = none) :
    (loadDotenv env (some content)).1.get? name = some value ↔
      ∃ before entry rest, entries content = before ++ entry :: rest ∧
        (∀ e ∈ before, fault? e = none ∧ target e ≠ .ok (some name)) ∧
          readEntry (valueOf (assign env before).1) entry = .ok (some (name, value)) := by
  rw [loadDotenv_some, get?_foldl_perform_eq_some_iff hnew]
  constructor
  · rintro ⟨before, entry, rest, hsplit, hbefore, hread⟩
    have hsound : ∀ e ∈ before, fault? e = none := fun e he ↦
      fault?_eq_none_of_mem_sound (hsplit ▸ List.mem_append_left _ he)
    -- the entries from the first malformed one on come back behind `rest`
    obtain ⟨tail, htail⟩ := List.takeWhile_prefix (l := entries content)
      fun entry ↦ (fault? entry).isNone
    refine ⟨before, entry, rest ++ tail, ?_, fun e he ↦ ⟨hsound e he, hbefore e he⟩, ?_⟩
    · rw [← List.cons_append, ← List.append_assoc, ← hsplit]
      exact htail.symm
    · rwa [assign_of_sound env hsound]
  · rintro ⟨before, entry, rest, hsplit, hbefore, hread⟩
    have hsound : ∀ e ∈ before, fault? e = none := fun e he ↦ (hbefore e he).1
    have hentry : fault? entry = none :=
      fault?_eq_none_of_target ((target_eq_some_iff _).mpr ⟨value, hread⟩)
    rw [assign_of_sound env hsound] at hread
    refine ⟨before, entry, sound rest, ?_, fun e he ↦ (hbefore e he).2, hread⟩
    rw [hsplit, sound_append hsound, sound_cons, hentry, Option.elim_none]

/-- Settings that variables of the process make are the same after loading. -/
theorem get_of_loadDotenv {file : Option Bytes} {stem : String} {c d : Config}
    (hbefore : ofVariables stem env = .ok c)
    (hafter : ofVariables stem (loadDotenv env file).1 = .ok d) {v : String × String}
    (hv : v ∈ env.vars) {f : Field} (hf : StandsFor stem v.1 f) : d.get f = c.get f := by
  have hsame := readText_of_ofVariables hafter ((prefix_loadDotenv env file).subset hv) hf
  rw [readText_of_ofVariables hbefore hv hf] at hsame
  exact (Except.ok.inj hsame).symm

/-- **The process environment beats the file.** However well-formed the file is, a variable that is
set before keeps its value, and a new one has the value of its first assignment, with references to
the variables set until then. A malformed entry leaves what the entries before it did, and one
warning; no file leaves nothing. A configuration that is loaded before and after has the same value
in every setting that a variable set before stands for, and loading a second time changes
nothing. -/
theorem process_environment_wins (env : Environment) :
    (∀ file name value, env.get? name = some value →
      (loadDotenv env file).1.get? name = some value) ∧
    (∀ content name value, env.get? name = none →
      ((loadDotenv env (some content)).1.get? name = some value ↔
        ∃ before entry rest, entries content = before ++ entry :: rest ∧
          (∀ e ∈ before, fault? e = none ∧ target e ≠ .ok (some name)) ∧
            readEntry (valueOf (assign env before).1) entry = .ok (some (name, value)))) ∧
    (∀ content before entry rest cause, entries content = before ++ entry :: rest →
      (∀ e ∈ before, fault? e = none) → fault? entry = some cause →
        loadDotenv env (some content) = ((assign env before).1, [.dotenvFailed cause]) ∧
          (LogLine.dotenvFailed cause).level = .warn) ∧
    (∀ content, (∀ e ∈ entries content, fault? e = none) →
      (loadDotenv env (some content)).2 = [.dotenvLoaded]) ∧
    loadDotenv env none = (env, []) ∧
    (∀ file stem c d, ofVariables stem env = .ok c →
      ofVariables stem (loadDotenv env file).1 = .ok d →
        ∀ v ∈ env.vars, ∀ f, StandsFor stem v.1 f → d.get f = c.get f) ∧
    ∀ file, loadDotenv (loadDotenv env file).1 file = loadDotenv env file := by
  refine ⟨?_, ?_, ?_, ?_, rfl, ?_, loadDotenv_loadDotenv env⟩
  · exact fun file name value ↦ Environment.get?_of_prefix (prefix_loadDotenv env file)
  · exact fun content name value ↦ get?_loadDotenv_eq_some_iff
  · intro content before entry rest cause hsplit hsound hfault
    have hload : load env content = ((assign env before).1, some cause) := by
      rw [← assign_of_fault env hsound hfault rest, ← hsplit]
      rfl
    rw [loadDotenv, hload]
    exact ⟨rfl, rfl⟩
  · intro content hsound
    rw [loadDotenv_some, List.findSome?_eq_none_iff.mpr hsound]
    rfl
  · exact fun file stem c d hbefore hafter v hv f ↦ get_of_loadDotenv hbefore hafter hv

/-- A file sets neither the tracking id, which the process has set, nor anything after a malformed
line, and a cookie name only once. A comment alone is no malformed line. -/
theorem file_sets_new_cookie_name :
    let env : Environment := ⟨[("HOME", "/home"), ("APP_TRACKING_ID", "G-1")]⟩
    let content := Utf8.encode
      "APP_TRACKING_ID=G-2\n\nAPP_CLIENT_ID_COOKIE=$HOME/c\nAPP_CLIENT_ID_COOKIE=d\n?\nLATE=1\n"
    let after := (loadDotenv env (some content)).1
    after.get? "APP_TRACKING_ID" = some "G-1" ∧
      after.get? "APP_CLIENT_ID_COOKIE" = some "/home/c" ∧ after.get? "LATE" = none ∧
      (loadDotenv env (some content)).2 = [.dotenvFailed (.malformed "?" 0)] ∧
      (loadDotenv env (some (Utf8.encode "# nothing\n"))).2 = [.dotenvLoaded] ∧
      (∃ c d, ofVariables "APP" env = .ok c ∧ ofVariables "APP" after = .ok d ∧
        c.clientIdCookie ≠ d.clientIdCookie ∧ d.get .trackingId = c.get .trackingId) ∧
      loadDotenv after (some content) = loadDotenv env (some content) := by
  intro env content after
  obtain ⟨hkept, hnew, hfault, hsound, -, hsettings, hagain⟩ := process_environment_wins env
  have hentries : entries content = [.ok "APP_TRACKING_ID=G-2".toList, .ok [],
      .ok "APP_CLIENT_ID_COOKIE=$HOME/c".toList, .ok "APP_CLIENT_ID_COOKIE=d".toList,
      .ok "?".toList, .ok "LATE=1".toList] := by decide +kernel
  have hcookie : after.get? "APP_CLIENT_ID_COOKIE" = some "/home/c" := by
    refine (hnew content _ _ (by decide +kernel)).mpr ⟨[.ok "APP_TRACKING_ID=G-2".toList, .ok []],
      _, _, hentries, ?_, ?_⟩ <;> decide +kernel
  have hlog := (hfault content [_, _, _, _] _ _ (.malformed "?" 0) hentries
    (by decide +kernel) (by decide +kernel)).1
  have hc : ofVariables "APP" env = .ok { default with trackingId := "G-1" } := by decide +kernel
  have hd : ofVariables "APP" after =
      .ok { default with trackingId := "G-1", clientIdCookie := "/home/c" } := by decide +kernel
  refine ⟨hkept _ _ _ (by decide +kernel), hcookie, by decide +kernel, congrArg Prod.snd hlog,
    hsound _ (by decide +kernel), ⟨_, _, hc, hd, by decide +kernel, ?_⟩, hagain (some content)⟩
  exact hsettings _ _ _ _ hc hd ("APP_TRACKING_ID", "G-1") (by decide) .trackingId
    (by decide +kernel)

end RequestTelemetry
