import Signpost.Cli.Command
import Signpost.Proofs.Config.Binding
import Signpost.Proofs.Json.Indented

/-!
# Inspecting a dispatch

To show where a path leads, the handlers of a configured dispatcher are replaced
by inspectors.  Every inspector stands where the handler stood that it replaces,
so that the route it tells of is the one that is fired without inspectors, and
the arguments are those that its class would be called with.
-/

namespace Signpost

private theorem Dispatcher.set_of_hasAt {dispatcher : Dispatcher}
    {pattern : String} {old : Handler} {before after : List Route}
    (h : dispatcher.table.HasAt pattern before old after) (handler : Handler) :
    dispatcher.set pattern handler =
      ({ dispatcher with table := ⟨before ++ ⟨pattern, handler⟩ :: after⟩ },
        [.handlerReplaced pattern]) := by
  rw [Dispatcher.set, h.insert]
  rfl

/-! ## Answers that do not depend on the cache -/

namespace Dispatcher

variable {dispatcher : Dispatcher}

theorem accepts_eq (h : dispatcher.router.Coherent) (pattern : String) :
    dispatcher.accepts pattern =
      (Router.uncached.matchPath pattern dispatcher.path
        dispatcher.caseSensitive).1 := by
  rw [accepts, (h.matchPath _ _ _).1,
    (Router.Reachable.uncached.coherent.matchPath _ _ _).1]

theorem argsFor_eq (h : dispatcher.router.Coherent) (pattern : String) :
    dispatcher.argsFor pattern =
      Args.ofValues (Router.uncached.matchPath pattern dispatcher.path
        dispatcher.caseSensitive).2.1.params.values := by
  rw [argsFor, (h.matchPath _ _ _).2.1,
    (Router.Reachable.uncached.coherent.matchPath _ _ _).2.1]

theorem run_of_not_accepts (h : dispatcher.router.Coherent)
    (hnone : ∀ pattern ∈ dispatcher.table.patterns,
      dispatcher.accepts pattern = false) :
    dispatcher.run.1 = false := by
  refine (run_of_none h fun route hroute => ?_).1
  exact valuesFor?_eq_none_iff.mpr (hnone _ (List.mem_map_of_mem hroute))

end Dispatcher

namespace Cli

variable {dispatcher : Dispatcher} {config : DispatchConfig} {path : String}

def inspected (route : RouteConfig) : Route := ⟨route.pattern, inspector route⟩

private theorem inspect_append {routes : List RouteConfig}
    {before after : List Route}
    (htable : dispatcher.table.routes = before ++ after)
    (hsame : after.map Route.pattern = routes.map RouteConfig.pattern)
    (hdistinct : dispatcher.table.patterns.Nodup) :
    inspect dispatcher routes =
      { dispatcher with table := ⟨before ++ routes.map inspected⟩ } := by
  -- the routes in front have their inspectors, those behind still await them
  induction routes generalizing dispatcher before after with
  | nil =>
      rw [List.map_nil, List.map_eq_nil_iff] at hsame
      rw [List.map_nil, ← hsame, ← htable]
      rfl
  | cons route rest ih =>
      obtain ⟨first, later, rfl⟩ : ∃ first later, after = first :: later :=
        List.exists_cons_of_ne_nil (by rintro rfl; nomatch hsame)
      obtain ⟨hfirst, hlater⟩ := List.cons.inj hsame
      have hat :
          dispatcher.table.HasAt route.pattern before first.handler later := by
        refine ⟨by rw [htable, ← hfirst], fun other hother hpattern => ?_⟩
        rw [RouteTable.patterns, htable, List.map_append, List.nodup_append]
          at hdistinct
        refine hdistinct.2.2 _ (List.mem_map_of_mem hother)
          _ List.mem_cons_self ?_
        rw [hpattern, hfirst]
      have hset := Dispatcher.set_of_hasAt hat (inspector route)
      rw [inspect, List.foldl_cons, ← inspect, hset,
        @ih _ (before ++ [inspected route]) later (by simp [inspected]) hlater]
      · simp [inspected]
      · simpa [RouteTable.patterns, htable, hfirst] using hdistinct

def covers (config : DispatchConfig) (path : String)
    (route : RouteConfig) : Bool :=
  (Router.uncached.matchPath route.pattern path config.caseSensitive).1

/-- What the handler of a configured route is given on a path. -/
def argsOf (config : DispatchConfig) (path : String)
    (route : RouteConfig) : Args :=
  Args.ofValues
    (Router.uncached.matchPath route.pattern path
      config.caseSensitive).2.1.params.values

/-! ## Dispatchers of a configuration -/

theorem accepts_eq_covers (hrouter : dispatcher.router.Coherent)
    (hpath : dispatcher.path = path)
    (hcase : dispatcher.caseSensitive = config.caseSensitive)
    (route : RouteConfig) : dispatcher.accepts route.pattern =
      covers config path route := by
  rw [covers, Dispatcher.accepts_eq hrouter, hpath, hcase]

theorem argsFor_eq_argsOf (hrouter : dispatcher.router.Coherent)
    (hpath : dispatcher.path = path)
    (hcase : dispatcher.caseSensitive = config.caseSensitive)
    (route : RouteConfig) : dispatcher.argsFor route.pattern =
      argsOf config path route := by
  rw [argsOf, Dispatcher.argsFor_eq hrouter, hpath, hcase]

section
variable (h : DispatchConfig.SoundRoutes config.caseSensitive [] config.routes)
include h

theorem inspect_dispatcher (path : String) :
    inspect (config.dispatcher {} path).1 config.routes =
      { router := config.router {}, path, caseSensitive := config.caseSensitive
        table := ⟨config.routes.map inspected⟩ } := by
  rw [DispatchConfig.dispatcher_eq h]
  refine @inspect_append _ _ [] config.table.routes rfl ?_ ?_
  · exact DispatchConfig.table_patterns h
  · rw [DispatchConfig.table_patterns h]
    exact h.distinct

theorem dispatch_of_none
    (hnone : ∀ route ∈ config.routes, covers config path route = false) :
    dispatch config path = .failed ("No route matched " ++ path) := by
  have hrouter := config.router_coherent .withCache
  have hrun :
      (inspect (config.dispatcher {} path).1 config.routes).run.1 = false := by
    rw [inspect_dispatcher h]
    refine Dispatcher.run_of_not_accepts hrouter fun pattern hpattern => ?_
    obtain ⟨_, hroute, rfl⟩ := List.mem_map.mp hpattern
    obtain ⟨route, hmem, rfl⟩ := List.mem_map.mp hroute
    exact (accepts_eq_covers hrouter rfl rfl route).trans (hnone route hmem)
  simp only [dispatch, hrun]
  rfl

/--
The inspector of the first configured route that matches the path is called.
-/
theorem inspect_fires {route : RouteConfig}
    (hfind : config.routes.find? (covers config path) = some route) :
    (inspect (config.dispatcher {} path).1 config.routes).Fires
      (inspected route)
      (argsOf config path route) := by
  obtain ⟨hcovers, before, after, hroutes, hbefore⟩ :=
    List.find?_eq_some_iff_append.mp hfind
  have hrouter := config.router_coherent .withCache
  have htable : config.routes.map inspected =
      before.map inspected ++ inspected route :: after.map inspected := by
    simp [hroutes]
  have hargs :
      (inspect (config.dispatcher {} path).1 config.routes).argsFor
        route.pattern = argsOf config path route := by
    rw [inspect_dispatcher h]
    exact argsFor_eq_argsOf hrouter rfl rfl route
  rw [← hargs, inspect_dispatcher h]
  refine Dispatcher.fires_of_split hrouter htable ?_ ?_
  · intro other hother
    obtain ⟨earlier, hearlier, rfl⟩ := List.mem_map.mp hother
    have hnot : covers config path earlier = false := by
      simpa using hbefore earlier hearlier
    exact (accepts_eq_covers hrouter rfl rfl earlier).trans hnot
  · exact (accepts_eq_covers hrouter rfl rfl route).trans hcovers

theorem dispatch_of_find? {route : RouteConfig}
    (hfind : config.routes.find? (covers config path) = some route) :
    dispatch config path =
      .printed (inspection route (argsOf config path route)).indented := by
  have hfires := inspect_fires h hfind
  have hinvoke : ((inspected route).handler.invoke
      (inspect (config.dispatcher {} path).1 config.routes).classes
      (argsOf config path route)).1 =
        .ok (inspection route (argsOf config path route)) := rfl
  have hrun := hfires.succeeds
  have hresult := hfires.result
  rw [hinvoke] at hrun hresult
  simp only [dispatch, hrun, hresult]
  rfl

theorem fires_of_find? {route : RouteConfig} {target : Target}
    (hfind : config.routes.find? (covers config path) = some route)
    (htarget : Target.parse? route.handler = some target) (cache : PatternCache)
    (classes : Registry) (hcache : (Router.withCache cache).Reachable) :
    Dispatcher.Fires { (config.dispatcher cache path).1 with classes }
      ⟨route.pattern, .method target⟩ (argsOf config path route) := by
  have hrouter := config.router_coherent hcache
  have hargs :
      Dispatcher.argsFor { (config.dispatcher cache path).1 with classes }
        route.pattern = argsOf config path route := by
    rw [DispatchConfig.dispatcher_eq h]
    exact argsFor_eq_argsOf hrouter rfl rfl route
  rw [← hargs, DispatchConfig.dispatcher_eq h]
  refine DispatchConfig.fires_of_find? h hrouter rfl ?_ htarget
  rw [← hfind]
  congr
  funext other
  exact accepts_eq_covers hrouter rfl rfl other

end

/-! ## What is printed -/

def linesOf (indent : Nat) (texts : List (List Char)) : List Char :=
  [','].intercalate
    (texts.map fun text => '\n' :: List.replicate indent ' ' ++ text)

def paramText : Param → List Char
  | none => "null".toList
  | some text => Json.quoted text

def argumentsText : List Param → List Char
  | [] => "[]".toList
  | values => '[' :: linesOf 4 (values.map paramText) ++ "\n  ]".toList

def memberText (key : String) (text : List Char) : List Char :=
  Json.quoted key ++ ':' :: ' ' :: text

/--
The text of an inspection: an object whose members stand on lines of their own,
in the order of their keys.
-/
def inspectionText (route : RouteConfig) (args : Args) : List Char :=
  '\x7b' :: linesOf 2
    [memberText "args" (argumentsText args.values),
     memberText "handler" (Json.quoted route.handler),
     memberText "packed" (toString args.isPacked).toList,
     memberText "pattern" (Json.quoted route.pattern)] ++ "\n\x7d\n".toList

/-- The members of an inspection, in the order of their keys. -/
def inspectionMembers (route : RouteConfig) (args : Args) :
    List (String × Json) :=
  [("args", .array (args.values.map .optional)),
   ("handler", .string route.handler),
   ("packed", .bool args.isPacked),
   ("pattern", .string route.pattern)]

private theorem inspectionMembers_sorted (route : RouteConfig) (args : Args) :
    Json.Sorted (inspectionMembers route args) := by
  change ["args", "handler", "packed", "pattern"].Pairwise (· < ·)
  decide

private theorem inspection_eq (route : RouteConfig) (args : Args) :
    inspection route args = .object (inspectionMembers route args) := by
  refine Json.ofMembers_of_perm (inspectionMembers_sorted route args) ?_
  exact (@List.perm_middle _ _ [_, _, _] []).trans
    ((@List.perm_append_comm _ [_] [_, _]).cons _)

private theorem indentedChars_optional (indent : Nat) (value : Param) :
    Json.indentedChars indent (.optional value) = paramText value := by
  cases value <;> rfl

private theorem indentedChars_args (values : List Param) :
    Json.indentedChars 1 (.array (values.map .optional)) =
      argumentsText values := by
  cases values with
  | nil => rfl
  | cons value rest =>
      have hlines : Json.indentedItems 2 ((value :: rest).map .optional) =
          linesOf 4 ((value :: rest).map paramText) := by
        rw [Json.indentedItems_eq, linesOf, List.map_map, List.map_map]
        simp only [Function.comp_def, indentedChars_optional]
        rfl
      change '[' :: Json.indentedItems 2 ((value :: rest).map .optional) ++
        "\n  ".toList ++ [']'] = _
      rw [hlines, List.append_assoc]
      rfl

private theorem printed_eq (route : RouteConfig) (args : Args) :
    ((inspection route args).indented ++ "\n").toList =
      inspectionText route args := by
  have hflag : Json.indentedChars 1 (.bool args.isPacked) =
      (toString args.isPacked).toList := by
    cases args.isPacked <;> rfl
  rw [inspection_eq, String.toList_append, Json.indented, String.toList_ofList]
  change '\x7b' :: Json.indentedMembers 1 (inspectionMembers route args) ++
    "\n".toList ++ ['\x7d'] ++ "\n".toList = _
  rw [Json.indentedMembers_eq, inspectionText, ← hflag, ← indentedChars_args,
    List.append_assoc, List.append_assoc]
  rfl

private theorem parse?_printed (route : RouteConfig) (args : Args) :
    Json.parse? ((inspection route args).indented ++ "\n") =
      some (.object (inspectionMembers route args)) := by
  have hvalues : ∀ member ∈ inspectionMembers route args, ∀ indent,
      Json.ReadAs 126 (Json.indentedChars indent member.2) member.2 := by
    intro member hmember indent
    simp only [inspectionMembers, List.mem_cons, List.not_mem_nil, or_false]
      at hmember
    rcases hmember with rfl | rfl | rfl | rfl
    · refine Json.readAs_array (fun item hitem indent => ?_) indent
      obtain ⟨value, -, rfl⟩ := List.mem_map.mp hitem
      cases value with
      | none => exact Json.readAs_null _
      | some text => exact Json.readAs_string _ text
    · exact Json.readAs_string _ route.handler
    · exact Json.readAs_bool _ args.isPacked
    · exact Json.readAs_string _ route.pattern
  have hread := Json.readAs_object hvalues 0
  rw [Json.ofMembers_of_perm (inspectionMembers_sorted route args) (.refl _)]
    at hread
  rw [inspection_eq, ← Json.parse?_of_readAs hread, Json.indented,
    String.ofList_append]

/--
A dispatch that is inspected fails if no configured route matches the path.
Else it prints the pattern and the handler of the route that is fired without
inspectors, with the arguments that the method of its class is called with,
whatever classes there are, and whether they are packed.  What is printed reads
as the object of these four members.
-/
theorem dispatch_prints_fired {file : Option (List UInt8)}
    (hload : (DispatchConfig.load file).1 = .ok config) (name path : String) :
    let outcome := (Command.dispatch name path).run file
    (outcome.exitCode ≠ 0 ↔ ∀ route ∈ config.routes,
      covers config path route = false) ∧
    (outcome.exitCode ≠ 0 → outcome = .failed ("No route matched " ++ path)) ∧
    (outcome.exitCode = 0 → ∃ route args target,
      config.routes.find? (covers config path) = some route ∧
      args = argsOf config path route ∧
      Target.parse? route.handler = some target ∧
      target.className ++ "::" ++ target.method = route.handler ∧
      outcome = .printed (inspection route args).indented ∧
      outcome.output.toList = inspectionText route args ∧
      Json.parse? outcome.output = some (.object
        [("args", .array (args.values.map .optional)),
         ("handler", .string route.handler),
         ("packed", .bool args.isPacked),
         ("pattern", .string route.pattern)]) ∧
      ∀ (cache : PatternCache) (classes : Registry),
        (Router.withCache cache).Reachable →
        Dispatcher.Fires { (config.dispatcher cache path).1 with classes }
          ⟨route.pattern, .method target⟩ args) := by
  intro outcome
  have hsound :=
    DispatchConfig.sound_of_validate (DispatchConfig.validate_of_load hload)
  have hrun : outcome = dispatch config path := by
    simp only [outcome, Command.run, hload]
  cases hfind : config.routes.find? (covers config path) with
  | none =>
      have hnone : ∀ route ∈ config.routes,
          covers config path route = false := by
        simpa using hfind
      rw [hrun, dispatch_of_none hsound hnone]
      exact ⟨iff_of_true Nat.one_ne_zero hnone, fun _ => rfl,
        fun h => nomatch h⟩
  | some route =>
      have hcovers := List.find?_some hfind
      have hmem := List.mem_of_find?_eq_some hfind
      obtain ⟨target, htarget⟩ := hsound.targets route hmem
      rw [hrun, dispatch_of_find? hsound hfind]
      refine ⟨iff_of_false (fun h => h rfl) fun hnone => ?_,
        fun h => absurd rfl h, fun _ => ?_⟩
      · rw [hnone route hmem] at hcovers
        nomatch hcovers
      · exact ⟨route, _, target, rfl, rfl, htarget,
          Target.text_of_parse? htarget, rfl, printed_eq route _,
          parse?_printed route _, fires_of_find? hsound hfind htarget⟩

theorem dispatch_prints_fired_second :
    let config : DispatchConfig :=
      { caseSensitive := true
        routes := [⟨"/a", "A::index"⟩, ⟨"/a/@id", "A::show"⟩] }
    let file := some (Utf8.encode
      "case_sensitive = true\nroutes = [['/a', 'A::index'], ['/a/@id', 'A::show']]".toList)
    let outcome := (Command.dispatch "routes.toml" "/a/7").run file
    (DispatchConfig.load file).1 = .ok config ∧ outcome.exitCode = 0 ∧
      config.routes.find? (covers config "/a/7") = some ⟨"/a/@id", "A::show"⟩ ∧
      outcome.output = "\x7b\n  \"args\": [\n    \"7\"\n  ],\n  " ++
        "\"handler\": \"A::show\",\n  \"packed\": false,\n  " ++
        "\"pattern\": \"/a/@id\"\n\x7d\n" ∧
      Json.parse? outcome.output = some (.object
        [("args", .array [.string "7"]), ("handler", .string "A::show"),
         ("packed", .bool false), ("pattern", .string "/a/@id")]) ∧
      Dispatcher.Fires { (config.dispatcher {} "/a/7").1 with classes := {} }
        ⟨"/a/@id", .method ⟨"A", "show"⟩⟩ (.spread [some "7"]) := by
  intro config file outcome
  have hload : (DispatchConfig.load file).1 = .ok config := by decide +kernel
  have hfind : config.routes.find? (covers config "/a/7") =
      some ⟨"/a/@id", "A::show"⟩ := by
    decide +kernel
  have hargs : argsOf config "/a/7" ⟨"/a/@id", "A::show"⟩ =
      .spread [some "7"] := by
    decide +kernel
  obtain ⟨hfailed, -, hprints⟩ :=
    dispatch_prints_fired hload "routes.toml" "/a/7"
  have hcode : outcome.exitCode = 0 := by
    refine Decidable.of_not_not fun hne => ?_
    have hnot := hfailed.mp hne _ (List.mem_of_find?_eq_some hfind)
    exact Bool.false_ne_true (hnot.symm.trans (List.find?_some hfind))
  obtain ⟨route, args, target, hroute, hof, htarget, -, -, htext, hread,
    hfires⟩ := hprints hcode
  obtain rfl := Option.some.inj (hfind.symm.trans hroute)
  obtain rfl := hof.trans hargs
  obtain rfl : (⟨"A", "show"⟩ : Target) = target :=
    Option.some.inj
      ((by decide : Target.parse? "A::show" = _).symm.trans htarget)
  exact ⟨hload, hcode, hfind, String.toList_inj.mp (htext.trans (by decide)),
    hread, hfires {} {} .withCache⟩

end Cli

end Signpost
