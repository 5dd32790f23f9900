import Mathlib.Data.String.Basic
import ReverseSocks.Config.Client

/-! # The proxy's command line

    `ParseCommandLine` in the proxy's `config.cpp` and the first lines of its `main`. The parser
    reads the arguments after `argv[0]` in pairs, flag then value, and at the end prints a line
    for each required flag never given; `--help` empties `server_host`, and `main` exits 0 on an
    empty host.

    So `main` cannot tell `--help` from `--server ""` (`launch_render`), and a timeout above
    `INT_MAX` saturates (`parseLoop_connectTimeout_saturates`).
-/

namespace ReverseSocks

/-- `static_cast<uint32_t>` of an `int`: its value modulo `2^32`. -/
def uint32OfInt (n : Int) : UInt32 := UInt32.ofNat (n % 2 ^ 32).toNat

/-- `CliArgs`, with its defaults. -/
structure CliArgs where
  serverHost : String := ""
  serverPort : UInt16 := 22
  username : String := ""
  password : String := ""
  forwardPort : UInt16 := 1080
  connectTimeoutMs : UInt32 := 10000
  keepaliveIntervalMs : UInt32 := 30000
  logLevel : LogLevel := .info
  deriving DecidableEq, Repr

/-- The `have_server`, `have_username` and `have_password` flags of `ParseCommandLine`. -/
structure Seen where
  haveServer : Bool := false
  haveUsername : Bool := false
  havePassword : Bool := false
  deriving DecidableEq, Repr

/-- Whether all three required flags were given. -/
def Seen.all (seen : Seen) : Bool := seen.haveServer && seen.haveUsername && seen.havePassword

/-- The flags the loop sets once it has read `flag` and its value. -/
def Seen.note (seen : Seen) (flag : String) : Seen :=
  if flag = "--server" then { seen with haveServer := true }
  else if flag = "--username" ∨ flag = "-u" then { seen with haveUsername := true }
  else if flag = "--password" ∨ flag = "-p" then { seen with havePassword := true }
  else seen

/-- A required flag counts as given exactly when it stands among the flags read. -/
theorem Seen.foldl_note (fs : List String) (seen : Seen) :
    fs.foldl Seen.note seen =
      { haveServer := seen.haveServer || decide ("--server" ∈ fs),
        haveUsername := seen.haveUsername || decide ("--username" ∈ fs ∨ "-u" ∈ fs),
        havePassword := seen.havePassword || decide ("--password" ∈ fs ∨ "-p" ∈ fs) } := by
  induction fs generalizing seen with
  | nil => simp
  | cons f fs ih =>
    rw [List.foldl_cons, ih]
    unfold Seen.note
    split_ifs with h₁ h₂ h₃
    · subst h₁; simp
    · rcases h₂ with rfl | rfl <;> simp
    · rcases h₃ with rfl | rfl <;> simp
    · simp only [not_or] at h₂ h₃
      simp [Ne.symm h₁, Ne.symm h₂.1, Ne.symm h₂.2, Ne.symm h₃.1, Ne.symm h₃.2]

/-- The flags of arguments read in pairs, flag then value. -/
def flagsOf : List String → List String
  | a :: _ :: rest => a :: flagsOf rest
  | _ => []

namespace CliArgs

/-- `PrintUsage`. -/
def printUsage (exe : String) : String :=
  "Usage: " ++ exe ++ " --server HOST --username USER --password PASS [options]\n" ++
  "\n" ++
  "Required:\n" ++
  "  --server HOST           SSH server hostname or IP\n" ++
  "  --username / -u USER    SSH username\n" ++
  "  --password / -p PASS    SSH password\n" ++
  "\n" ++
  "Optional:\n" ++
  "  --port PORT             SSH port (default: 22)\n" ++
  "  --forward-port / -f N   Port to forward on server (default: 1080)\n" ++
  "  --connect-timeout N     TCP+SSH connect timeout in ms (default: 10000)\n" ++
  "  --keepalive-ms N        Keepalive interval in ms (default: 30000)\n" ++
  "  --log-level LEVEL       debug|info|warn|error (default: info)\n" ++
  "  --help                  Show this help\n"

/-- The end of `ParseCommandLine`: one line for each required flag not given, and `ok` when
    none is missing. -/
def finish (args : CliArgs) (seen : Seen) : Bool × CliArgs × String :=
  (seen.all, args,
    (if seen.haveServer then "" else "Error: --server is required\n") ++
    (if seen.haveUsername then "" else "Error: --username is required\n") ++
    (if seen.havePassword then "" else "Error: --password is required\n"))

/-- The loop of `ParseCommandLine` over the arguments not read yet, writing into `args`: the
    result, `args` when it returns, and what it printed. -/
def parseLoop (exe : String) (args : CliArgs) (seen : Seen) : List String → Bool × CliArgs × String
  | [] => finish args seen
  | arg :: rest =>
    if arg = "--help" ∨ arg = "-h" then (true, { args with serverHost := "" }, printUsage exe)
    else match rest with
    | [] => (false, args, requiresValue arg)
    | val :: rest =>
      if arg = "--server" then
        parseLoop exe { args with serverHost := val } { seen with haveServer := true } rest
      else if arg = "--port" then
        match parsePort val with
        | none => (false, args, "Error: invalid port \x27" ++ val ++ "\x27\n")
        | some p => parseLoop exe { args with serverPort := p } seen rest
      else if arg = "--username" ∨ arg = "-u" then
        parseLoop exe { args with username := val } { seen with haveUsername := true } rest
      else if arg = "--password" ∨ arg = "-p" then
        parseLoop exe { args with password := val } { seen with havePassword := true } rest
      else if arg = "--forward-port" ∨ arg = "-f" then
        match parsePort val with
        | none => (false, args, "Error: invalid forward-port \x27" ++ val ++ "\x27\n")
        | some p => parseLoop exe { args with forwardPort := p } seen rest
      else if arg = "--connect-timeout" then
        parseLoop exe { args with connectTimeoutMs := uint32OfInt (atoi val) } seen rest
      else if arg = "--keepalive-ms" then
        parseLoop exe { args with keepaliveIntervalMs := uint32OfInt (atoi val) } seen rest
      else if arg = "--log-level" then
        match parseLogLevel val with
        | none => (false, args, unknownLogLevel val)
        | some l => parseLoop exe { args with logLevel := l } seen rest
      else (false, args, unknownOption arg)

/-- `ParseCommandLine` on `argv`: `args` is reset to the defaults, no required flag is seen
    yet, and the loop starts after `argv[0]`. -/
def parseCommandLine : List String → Bool × CliArgs × String
  | [] => finish {} {}
  | exe :: argv => parseLoop exe {} {} argv

/-- What `main` does with the parser's answer before it connects. -/
inductive Launch
  | exit (code : Nat)
  | connect (args : CliArgs)
  deriving DecidableEq, Repr

/-- `main` up to the connection: exit 1 when the parser refuses, exit 0 when the host is empty
    (taken for `--help`), and connect otherwise. -/
def launch (argv : List String) : Launch :=
  match parseCommandLine argv with
  | (false, _, _) => .exit 1
  | (true, args, _) => if args.serverHost.isEmpty then .exit 0 else .connect args

theorem parseLoop_help {exe : String} {args : CliArgs} {seen : Seen} {arg : String}
    {rest : List String} (h : arg = "--help" ∨ arg = "-h") :
    parseLoop exe args seen (arg :: rest) = (true, { args with serverHost := "" }, printUsage exe) := by
  cases rest <;> simp [parseLoop, h]

/-! ## What the parser can return -/

/-- Both ports are nonzero. -/
def Valid (args : CliArgs) : Prop := args.serverPort ≠ 0 ∧ args.forwardPort ≠ 0

instance (args : CliArgs) : Decidable args.Valid := inferInstanceAs (Decidable (_ ∧ _))

/-- The error lines of the loop that name the argument `a`. -/
def ErrorLine (a err : String) : Prop :=
  err = requiresValue a ∨ err = "Error: invalid port \x27" ++ a ++ "\x27\n" ∨
    err = "Error: invalid forward-port \x27" ++ a ++ "\x27\n" ∨ err = unknownLogLevel a ∨
    err = unknownOption a

/-- How the loop can end on the arguments `argv`, having seen `seen` before them: at `--help`,
    with an empty host and the usage printed; at the end of the arguments, with valid ports and
    the required flags among the flags of `argv` counted as given; or refused in the loop, with
    one error line that names one of the arguments. -/
def Outcome (exe : String) (argv : List String) (seen : Seen) (r : Bool × CliArgs × String) :
    Prop :=
  (r.1 = true ∧ r.2.1.serverHost = "" ∧ r.2.2 = printUsage exe) ∨
    (r.2.1.Valid ∧ r = finish r.2.1 ((flagsOf argv).foldl Seen.note seen)) ∨
    (r.1 = false ∧ ∃ a ∈ argv, ErrorLine a r.2.2)

/-- An outcome after a flag and its value is an outcome of the arguments that start with them. -/
theorem Outcome.cons {exe arg val : String} {rest : List String} {seen : Seen}
    {r : Bool × CliArgs × String} (hr : Outcome exe rest (seen.note arg) r) :
    Outcome exe (arg :: val :: rest) seen r := by
  rcases hr with hr | hr | ⟨he, a, ha, hr⟩
  exacts [.inl hr, .inr (.inl hr), .inr (.inr ⟨he, a, .tail _ (.tail _ ha), hr⟩)]

/-- One turn of the loop on a flag and its value: it ends, or it goes on from valid ports with
    the flag noted. -/
theorem parseLoop_cons (exe : String) {args : CliArgs} (hv : args.Valid) (seen : Seen)
    (arg val : String) (rest : List String) :
    Outcome exe (arg :: val :: rest) seen (parseLoop exe args seen (arg :: val :: rest)) ∨
    ∃ args', parseLoop exe args seen (arg :: val :: rest) =
      parseLoop exe args' (seen.note arg) rest ∧ args'.Valid := by
  by_cases hh : arg = "--help" ∨ arg = "-h"
  · rw [parseLoop_help hh]
    exact .inl (.inl ⟨rfl, rfl, rfl⟩)
  have hval : val ∈ arg :: val :: rest := .tail _ (.head _)
  simp only [parseLoop, if_neg hh]
  by_cases h₁ : arg = "--server"
  · rw [if_pos h₁]; exact .inr ⟨{ args with serverHost := val }, by simp [Seen.note, h₁], hv⟩
  rw [if_neg h₁]
  by_cases h₂ : arg = "--port"
  · rw [if_pos h₂]
    cases hp : parsePort val with
    | none => exact .inl (.inr (.inr ⟨rfl, val, hval, .inr (.inl rfl)⟩))
    | some p =>
      exact .inr ⟨{ args with serverPort := p }, by simp [Seen.note, h₂], parsePort_ne_zero hp, hv.2⟩
  rw [if_neg h₂]
  by_cases h₃ : arg = "--username" ∨ arg = "-u"
  · rw [if_pos h₃]; exact .inr ⟨{ args with username := val }, by simp [Seen.note, h₁, h₃], hv⟩
  rw [if_neg h₃]
  by_cases h₄ : arg = "--password" ∨ arg = "-p"
  · rw [if_pos h₄]
    exact .inr ⟨{ args with password := val },
      by simp only [Seen.note, if_neg h₁, if_neg h₃, if_pos h₄], hv⟩
  rw [if_neg h₄]
  have hn : seen.note arg = seen := by simp only [Seen.note, if_neg h₁, if_neg h₃, if_neg h₄]
  rw [hn]
  by_cases h₅ : arg = "--forward-port" ∨ arg = "-f"
  · rw [if_pos h₅]
    cases hp : parsePort val with
    | none => exact .inl (.inr (.inr ⟨rfl, val, hval, .inr (.inr (.inl rfl))⟩))
    | some p => exact .inr ⟨{ args with forwardPort := p }, rfl, hv.1, parsePort_ne_zero hp⟩
  rw [if_neg h₅]
  by_cases h₆ : arg = "--connect-timeout"
  · rw [if_pos h₆]; exact .inr ⟨{ args with connectTimeoutMs := uint32OfInt (atoi val) }, rfl, hv⟩
  rw [if_neg h₆]
  by_cases h₇ : arg = "--keepalive-ms"
  · rw [if_pos h₇]
    exact .inr ⟨{ args with keepaliveIntervalMs := uint32OfInt (atoi val) }, rfl, hv⟩
  rw [if_neg h₇]
  by_cases h₈ : arg = "--log-level"
  · rw [if_pos h₈]
    cases parseLogLevel val with
    | none => exact .inl (.inr (.inr ⟨rfl, val, hval, .inr (.inr (.inr (.inl rfl)))⟩))
    | some l => exact .inr ⟨{ args with logLevel := l }, rfl, hv⟩
  rw [if_neg h₈]
  exact .inl (.inr (.inr ⟨rfl, arg, .head _, .inr (.inr (.inr (.inr rfl)))⟩))

theorem parseLoop_outcome (exe : String) :
    ∀ (argv : List String) (args : CliArgs) (seen : Seen), args.Valid →
      Outcome exe argv seen (parseLoop exe args seen argv)
  | [], args, seen, hv => .inr (.inl ⟨hv, rfl⟩)
  | [arg], args, seen, _ => by
    by_cases hh : arg = "--help" ∨ arg = "-h"
    · rw [parseLoop_help hh]
      exact .inl ⟨rfl, rfl, rfl⟩
    · simp only [parseLoop, if_neg hh]
      exact .inr (.inr ⟨rfl, arg, .head _, .inl rfl⟩)
  | arg :: val :: rest, args, seen, hv => by
    rcases parseLoop_cons exe hv seen arg val rest with hr | ⟨args', hr, hv'⟩
    · exact hr
    · rw [hr]
      exact (parseLoop_outcome exe rest args' (seen.note arg) hv').cons

/-- A timeout given in decimal above `INT_MAX` is set to `INT_MAX`. -/
theorem parseLoop_connectTimeout_saturates (exe : String) (args : CliArgs) (seen : Seen)
    (n : Nat) (h : INT_MAX < n) (rest : List String) :
    parseLoop exe args seen ("--connect-timeout" :: toString n :: rest) =
      parseLoop exe { args with connectTimeoutMs := 2147483647 } seen rest := by
  simp [parseLoop, atoi_toString_of_gt n h]
  rfl

end CliArgs

/-! ## What the command line means -/

theorem uint32OfInt_toNat (n : UInt32) : uint32OfInt n.toNat = n := by
  have h : n.toNat < 2 ^ 32 := n.toNat_lt_size
  apply UInt32.toNat.inj
  rw [uint32OfInt, uint32_toNat_ofNat]
  omega

/-- One option of the proxy's command line, with the value it sets: what the usage text
    offers, `short` for the forms `-u`, `-p` and `-f`. -/
inductive ProxyOption
  | server (host : String)
  | port (p : UInt16)
  | username (user : String) (short : Bool)
  | password (pass : String) (short : Bool)
  | forwardPort (p : UInt16) (short : Bool)
  | connectTimeout (ms : UInt32)
  | keepaliveMs (ms : UInt32)
  | logLevel (l : LogLevel)
  deriving DecidableEq, Repr

namespace ProxyOption

/-- The arguments that give an option, its number in decimal. -/
def render : ProxyOption → List String
  | server h => ["--server", h]
  | port p => ["--port", toString p.toNat]
  | username u short => [if short then "-u" else "--username", u]
  | password p short => [if short then "-p" else "--password", p]
  | forwardPort p short => [if short then "-f" else "--forward-port", toString p.toNat]
  | connectTimeout n => ["--connect-timeout", toString n.toNat]
  | keepaliveMs n => ["--keepalive-ms", toString n.toNat]
  | logLevel l => ["--log-level", l.name]

/-- What an option does to the arguments. -/
def apply : ProxyOption → CliArgs → CliArgs
  | server h, a => { a with serverHost := h }
  | port p, a => { a with serverPort := p }
  | username u _, a => { a with username := u }
  | password p _, a => { a with password := p }
  | forwardPort p _, a => { a with forwardPort := p }
  | connectTimeout n, a => { a with connectTimeoutMs := n }
  | keepaliveMs n, a => { a with keepaliveIntervalMs := n }
  | logLevel l, a => { a with logLevel := l }

/-- Which required flag an option gives. -/
def mark : ProxyOption → Seen → Seen
  | server _, s => { s with haveServer := true }
  | username _ _, s => { s with haveUsername := true }
  | password _ _, s => { s with havePassword := true }
  | _, s => s

/-- An option the parser can be given: a nonzero port, a timeout whose decimal text is an
    `int`. -/
def Valid : ProxyOption → Prop
  | port p | forwardPort p _ => p ≠ 0
  | connectTimeout n | keepaliveMs n => (n.toNat : Int) ≤ INT_MAX
  | _ => True

instance : DecidablePred Valid
  | port p | forwardPort p _ => inferInstanceAs (Decidable (p ≠ 0))
  | connectTimeout n | keepaliveMs n => inferInstanceAs (Decidable ((n.toNat : Int) ≤ INT_MAX))
  | server _ | username _ _ | password _ _ | logLevel _ => isTrue trivial

theorem atoi_toString_timeout {n : UInt32} (h : (n.toNat : Int) ≤ INT_MAX) :
    uint32OfInt (atoi (toString n.toNat)) = n := by
  rw [atoi_toString_nat, min_eq_left h, uint32OfInt_toNat]

/-- The loop reads an option's arguments as the option. -/
theorem parseLoop_render (exe : String) (args : CliArgs) (seen : Seen) (o : ProxyOption)
    (hv : o.Valid) (rest : List String) :
    CliArgs.parseLoop exe args seen (o.render ++ rest) =
      CliArgs.parseLoop exe (o.apply args) (o.mark seen) rest := by
  cases o with
  | port p => simp [render, apply, mark, CliArgs.parseLoop, parsePort_toString p hv]
  | forwardPort p short =>
    cases short <;> simp [render, apply, mark, CliArgs.parseLoop, parsePort_toString p hv]
  | username u short | password u short =>
    cases short <;> simp [render, apply, mark, CliArgs.parseLoop]
  | connectTimeout n | keepaliveMs n =>
    simp [render, apply, mark, CliArgs.parseLoop, atoi_toString_timeout hv]
  | logLevel l => simp [render, apply, mark, CliArgs.parseLoop, parseLogLevel_name]
  | _ => simp [render, apply, mark, CliArgs.parseLoop]

end ProxyOption

/-- Parsing the rendering of any list of valid options gives what the options mean: the
    defaults with each option applied in turn, `true` and nothing printed when the server, the
    username and the password are all given, and `false` with a line for each one missing
    otherwise. -/
theorem parseCommandLine_proxy_render (exe : String) (opts : List ProxyOption)
    (hv : ∀ o ∈ opts, o.Valid) :
    CliArgs.parseCommandLine (exe :: opts.flatMap ProxyOption.render) =
      CliArgs.finish (opts.foldl (fun a o => o.apply a) {}) (opts.foldl (fun s o => o.mark s) {}) := by
  suffices ∀ args seen, CliArgs.parseLoop exe args seen (opts.flatMap ProxyOption.render) =
      CliArgs.finish (opts.foldl (fun a o => o.apply a) args) (opts.foldl (fun s o => o.mark s) seen)
    from this {} {}
  induction opts with
  | nil => intro args seen; simp [CliArgs.parseLoop]
  | cons o opts ih =>
    intro args seen
    rw [List.flatMap_cons, ProxyOption.parseLoop_render exe args seen o (hv o (.head _)),
      ih fun o h => hv o (.tail _ h)]
    rfl

/-- `main` on the rendering of any list of valid options: the parser returns their meaning,
    printing a line for each required flag missing; `main` exits 1 if one is missing, exits 0
    without a word if the last server is empty, and connects otherwise. -/
theorem launch_render (exe : String) (opts : List ProxyOption) (hv : ∀ o ∈ opts, o.Valid) :
    let args := opts.foldl (fun a o => o.apply a) {}
    let seen := opts.foldl (fun s o => o.mark s) {}
    CliArgs.parseCommandLine (exe :: opts.flatMap ProxyOption.render) = CliArgs.finish args seen ∧
    (seen.all = true → (CliArgs.finish args seen).2.2 = "") ∧
    CliArgs.launch (exe :: opts.flatMap ProxyOption.render) =
      if seen.all then (if args.serverHost = "" then .exit 0 else .connect args) else .exit 1 := by
  dsimp only
  rw [CliArgs.launch, parseCommandLine_proxy_render exe opts hv, CliArgs.finish]
  refine ⟨rfl, ?_⟩
  generalize opts.foldl (fun s o => o.mark s) {} = seen
  obtain ⟨_ | _, _ | _, _ | _⟩ := seen <;> simp [Seen.all, String.isEmpty_iff]

/-- Given a username and a password, `--server ""` makes the proxy exit 0 without connecting
    and without a word, as `--help` does after printing the usage. -/
theorem launch_render_empty_server :
    (∀ o ∈ [.server "", .username "u" false, .password "p" false], ProxyOption.Valid o) ∧
    CliArgs.launch ["ssh-proxy", "--server", "", "--username", "u", "--password", "p"] = .exit 0 :=
  ⟨by decide, (launch_render "ssh-proxy" [.server "", .username "u" false, .password "p" false]
    (by decide)).2.2.trans (by decide)⟩

end ReverseSocks
