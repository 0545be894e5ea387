import TupleStore.Proofs.Heap

/-!
# Changes in place

The embedded database as it is overwritten: an operation works on the tables where they
stand, and whatever it has written stays there when it fails.  No operation fails behind
a write which can be seen, and so a refused one leaves everything as it was; a granted
one changes no space but the one it names.
-/

namespace TupleStore.Database

/-- A computation which overwrites its state; what it has written stays when it fails. -/
abbrev InPlace (σ α : Type) : Type := EStateM Fault σ α

namespace InPlace

variable {σ α β γ δ : Type}

/-! ## Outcomes -/

def check (outcome : Except Fault α) : InPlace σ α :=
  match outcome with
  | .error fault => throw fault
  | .ok result => return result

/-- What becomes of a state which nothing is written to before a failure. -/
def settled (state : σ) (outcome : Except Fault α) (next : α → β × σ) :
    EStateM.Result Fault σ β :=
  match outcome with
  | .error fault => .error fault state
  | .ok result => .ok (next result).1 (next result).2

/-- The state after a success; what a failure has left is given up. -/
def final : EStateM.Result Fault σ α → Except Fault σ
  | .error fault _ => .error fault
  | .ok _ state => .ok state

def onCopy {τ : Type} (work : InPlace τ Unit) (copy : τ) : InPlace σ τ := check (final (work copy))

theorem get_bind (next : σ → InPlace σ β) (state : σ) :
    (get >>= next) state = next state state := rfl

theorem modify_bind (change : σ → σ) (next : PUnit → InPlace σ β) (state : σ) :
    (modify change >>= next) state = next ⟨⟩ (change state) := rfl

theorem check_settled (state : σ) (outcome : Except Fault α) :
    (check outcome : InPlace σ α) state = settled state outcome fun result => (result, state) := by
  cases outcome <;> rfl

/-- Behind a step which fails before it writes, only its success is to be followed. -/
theorem bind_settled {state : σ} {outcome : Except Fault α} {first : α → δ × σ}
    {rest : α → Except Fault γ} {work : InPlace σ δ} {next : δ → InPlace σ β} {last : γ → β × σ}
    (hwork : work state = settled state outcome first)
    (h : ∀ result, outcome = .ok result →
      next (first result).1 (first result).2 = settled state (rest result) last) :
    (work >>= next) state = settled state (outcome >>= rest) last := by
  simp only [bind, EStateM.bind, hwork]
  cases outcome with
  | error fault => rfl
  | ok result => exact h result rfl

theorem check_bind {state : σ} {outcome : Except Fault α} {rest : α → Except Fault γ}
    {next : α → InPlace σ β} {last : γ → β × σ}
    (h : ∀ result, outcome = .ok result →
      next result state = settled state (rest result) last) :
    (check outcome >>= next) state = settled state (outcome >>= rest) last :=
  bind_settled (check_settled state outcome) h

theorem answer_settled {state : σ} {outcome : Except Fault α} {last : α → β × σ}
    {work : InPlace σ β} (answer : γ) (h : work state = settled state outcome last) :
    (work >>= fun _ => pure answer) state =
      settled state outcome fun result => (answer, (last result).2) := by
  rw [← bind_pure outcome]
  apply bind_settled h
  intro _ _
  rfl

theorem final_settled (state : σ) (outcome : Except Fault α) (next : α → β × σ) :
    final (settled state outcome next) = outcome.map fun result => (next result).2 := by
  cases outcome <;> rfl

theorem final_bind (work : InPlace σ α) (next : α → InPlace σ β) (state : σ) :
    final ((work >>= next) state) =
      match work state with
      | .error fault _ => .error fault
      | .ok result state => final (next result state) := by
  simp only [bind, EStateM.bind]
  cases work state <;> rfl

theorem final_forM {work : α → InPlace σ Unit} {step : σ → α → Except Fault σ}
    (h : ∀ item state, final (work item state) = step state item) (items : List α) (state : σ) :
    final (forM items work state) = items.foldlM step state := by
  induction items generalizing state with
  | nil => rfl
  | cons item items ih =>
      rw [List.forM_cons, final_bind, List.foldlM_cons, ← h item state]
      cases work item state with
      | error fault state => rfl
      | ok result state => exact ih state

/-! ## Tables -/

def applyOperation (operation : UpdateOperation) : InPlace Tuple Unit := do
  modify fun tuple =>
    tuple ++ List.replicate (operation.position + 1 - tuple.length) Value.nil
  let value ← check (Table.operand operation (fieldAt (← get) operation.position))
  modify fun tuple => tuple.set operation.position value

theorem final_applyOperation (operation : UpdateOperation) (tuple : Tuple) :
    final (applyOperation operation tuple) = Table.applyOperation tuple operation := by
  change final ((check (Table.operand operation (fieldAt (tuple ++ List.replicate
    (operation.position + 1 - tuple.length) Value.nil) operation.position)) >>= _) _) = _
  rw [Holds.fieldAt_padded, final_bind, check_settled, Table.applyOperation]
  cases Table.operand operation (fieldAt tuple operation.position) <;> rfl

theorem foldlM_applyOperation (tuple : Tuple) (operations : List UpdateOperation) :
    operations.foldlM Table.applyOperation tuple = Table.applyOperations tuple operations := by
  induction operations generalizing tuple with
  | nil => rfl
  | cons operation operations ih =>
      simp only [List.foldlM_cons, Table.applyOperations, ih]

theorem onCopy_applyOperation (operations : List UpdateOperation) (tuple : Tuple) :
    (onCopy (forM operations applyOperation) tuple : InPlace σ Tuple) =
      check (Table.applyOperations tuple operations) := by
  rw [onCopy, final_forM final_applyOperation, foldlM_applyOperation]

def insert (tuple : Tuple) : InPlace Table (List Tuple) := do
  let table ← get
  check (table.checkFormat tuple)
  let primary ← check table.primary
  match table.find primary (primary.keyOf tuple) with
  | .taken _ => throw (.duplicateKey primary.name table.space.name)
  | .free position =>
      check (table.checkUnique tuple table.tuples)
      set { table with tuples := table.tuples.insertIdx position tuple }
      return [tuple]

theorem insert_eq (tuple : Tuple) (table : Table) :
    insert tuple table = settled table (table.insert tuple) fun after => ([tuple], after) := by
  apply check_bind
  intro _ _
  apply check_bind
  intro primary _
  cases table.find primary (primary.keyOf tuple) with
  | taken position => rfl
  | free position =>
      apply check_bind
      intro _ _
      rfl

def replace (tuple : Tuple) : InPlace Table (List Tuple) := do
  let table ← get
  check (table.checkFormat tuple)
  let primary ← check table.primary
  match table.find primary (primary.keyOf tuple) with
  | .taken position =>
      check (table.checkUnique tuple (table.tuples.eraseIdx position))
      set { table with tuples := table.tuples.set position tuple }
  | .free position =>
      check (table.checkUnique tuple table.tuples)
      set { table with tuples := table.tuples.insertIdx position tuple }
  return [tuple]

theorem replace_eq (tuple : Tuple) (table : Table) :
    replace tuple table = settled table (table.replace tuple) fun after => ([tuple], after) := by
  apply check_bind
  intro _ _
  apply check_bind
  intro primary _
  cases table.find primary (primary.keyOf tuple) with
  | taken position =>
      apply check_bind
      intro _ _
      rfl
  | free position =>
      apply check_bind
      intro _ _
      rfl

def update (key : Key) (operations : List UpdateOperation) : InPlace Table (List Tuple) := do
  let table ← get
  let primary ← check table.primary
  match table.find primary key with
  | .free _ => return []
  | .taken position =>
      let tuple ← onCopy (forM operations applyOperation) (table.tuples.getD position [])
      if Value.compareKeys (primary.keyOf tuple) key != .eq then
        throw (.keyModified table.space.name)
      check (table.checkFormat tuple)
      check (table.checkUnique tuple (table.tuples.eraseIdx position))
      set { table with tuples := table.tuples.set position tuple }
      return [tuple]

theorem update_eq (key : Key) (operations : List UpdateOperation) (table : Table) :
    update key operations table =
      settled table (table.update key operations) fun (after, tuple) => (tuple.toList, after) := by
  apply check_bind
  intro primary _
  cases table.find primary key with
  | free position => rfl
  | taken position =>
      simp only [onCopy_applyOperation]
      apply check_bind
      intro tuple _
      cases Value.compareKeys (primary.keyOf tuple) key != .eq with
      | true => rfl
      | false =>
          apply check_bind
          intro _ _
          apply check_bind
          intro _ _
          rfl

def upsert (tuple : Tuple) (operations : List UpdateOperation) : InPlace Table Unit := do
  let primary ← check (← get).primary
  let updated ← update (primary.keyOf tuple) operations
  if updated.isEmpty then discard (insert tuple)

theorem upsert_eq (tuple : Tuple) (operations : List UpdateOperation) (table : Table) :
    upsert tuple operations table =
      settled table (table.upsert tuple operations) fun after => ((), after) := by
  apply check_bind
  intro primary _
  apply bind_settled (update_eq (primary.keyOf tuple) operations table)
  rintro ⟨after, updated⟩ h
  cases updated with
  | some updated => rfl
  | none =>
      have hsame : after = table := by
        rcases Table.update_eq_ok h with ⟨_, h⟩ | ⟨_, _, _, hsome, _⟩
        · exact h
        · contradiction
      rw [hsame]
      exact answer_settled () (insert_eq tuple table)

def delete (key : Key) : InPlace Table (List Tuple) := do
  let table ← get
  let primary ← check table.primary
  match table.find primary key with
  | .free _ => return []
  | .taken position =>
      set { table with tuples := table.tuples.eraseIdx position }
      return table.tuples[position]?.toList

theorem delete_eq (key : Key) (table : Table) :
    delete key table =
      settled table (table.delete key) fun (after, tuple) => (tuple.toList, after) := by
  apply check_bind
  intro primary _
  cases table.find primary key <;> rfl

/-! ## The database -/

def withTable (name : String) (work : InPlace Table α) : InPlace Database α := fun database =>
  match database.table name with
  | .error fault => .error fault database
  | .ok table =>
      match work table with
      | .error fault table => .error fault (database.putTable table)
      | .ok result table => .ok result (database.putTable table)

/-- Spaces are kept by their names. -/
def NamesApart (database : Database) : Prop :=
  (database.tables.map fun table => table.space.name).Nodup

variable {database : Database} {table : Table} {name : String}

theorem putTable_self (apart : NamesApart database) (h : database.table name = .ok table) :
    database.putTable table = database := by
  have hmem := table?_mem (table_eq_ok h)
  have htables : database.tables.map (fun other =>
      if other.space.name = table.space.name then table else other) = database.tables := by
    conv_rhs => rw [← List.map_id database.tables]
    apply List.map_congr_left
    intro other hother
    split
    next hname => exact (List.inj_on_of_nodup_map apart hother hmem hname).symm
    next => rfl
  rw [putTable, htables]

theorem withTable_eq (apart : NamesApart database) {work : InPlace Table α}
    (change : Table → Except Fault β) (last : β → α × Table)
    (h : ∀ table, work table = settled table (change table) last) :
    withTable name work database =
      settled database (database.table name >>= change) fun result =>
        ((last result).1, database.putTable (last result).2) := by
  unfold withTable
  cases htable : database.table name with
  | error fault => rfl
  | ok table =>
      rw [ok_bind]
      simp only [h]
      cases change table with
      | error fault => simp only [settled, putTable_self apart htable]
      | ok result => rfl

def createSpace (space : Space) (tuples : List Tuple) : InPlace Database Unit := do
  let database ← get
  if (database.table? space.name).isSome then throw (.spaceExists space.name)
  let table ← onCopy (forM tuples fun tuple => discard (insert tuple))
    ⟨{ space with id := database.nextId }, []⟩
  modify fun database => { database with nextId := database.nextId + 1 }
  modify fun database => { database with tables := database.tables ++ [table] }

theorem createSpace_eq (space : Space) (tuples : List Tuple) (database : Database) :
    createSpace space tuples database =
      settled database (database.createSpace space tuples) fun after => ((), after) := by
  have hround : ∀ (tuple : Tuple) (table : Table),
      final ((discard (insert tuple) : InPlace Table Unit) table) = table.insert tuple := by
    intro tuple table
    refine (congrArg final (answer_settled () (insert_eq tuple table))).trans ?_
    rw [final_settled]
    exact congrFun Except.map_id _
  unfold createSpace Database.createSpace
  rw [get_bind]
  simp only [onCopy, final_forM hround]
  cases (database.table? space.name).isSome with
  | true => rfl
  | false =>
      apply check_bind
      intro table _
      rfl

def dropSpace (name : String) : InPlace Database Unit := do
  let found := (← get).table? name
  modify fun database =>
    { database with tables := database.tables.filter fun table => table.space.name != name }
  if found.isNone then throw (.unknownSpace name)

theorem dropSpace_eq (name : String) (database : Database) :
    dropSpace name database =
      settled database (database.dropSpace name) fun after => ((), after) := by
  unfold dropSpace Database.dropSpace Database.table
  rw [get_bind, modify_bind]
  cases hfound : database.table? name with
  | some table => rfl
  | none =>
      have hother : database.tables.filter (fun table => table.space.name != name) =
          database.tables := by
        simpa [table?] using hfound
      rw [hother]
      rfl

def truncate (space : String) : InPlace Database Unit :=
  withTable space (modify fun table => { table with tuples := [] })

theorem truncate_eq (apart : NamesApart database) (space : String) :
    truncate space database =
      settled database (database.truncate space) fun after => ((), after) := by
  refine (withTable_eq apart (fun table => pure { table with tuples := [] })
    (fun table => ((), table)) fun _ => rfl).trans ?_
  unfold Database.truncate
  cases database.table space <;> rfl

def setFormat (space : String) (arguments : List Value) : InPlace Database Unit := do
  let some (.array fields) := arguments.head?
    | throw (.malformedArguments "format expects an array of fields")
  let format ← check (fields.mapM readField)
  withTable space (modify fun table => { table with space := { table.space with format } })

theorem setFormat_eq (apart : NamesApart database) (space : String) (arguments : List Value) :
    setFormat space arguments database =
      settled database (database.setFormat space arguments) fun after => ((), after) := by
  unfold setFormat Database.setFormat
  rcases arguments.head? with _ | value
  · rfl
  cases value with
  | array fields =>
      apply check_bind
      intro format _
      refine (withTable_eq apart
        (fun table => pure { table with space := { table.space with format } })
        (fun table => ((), table)) fun _ => rfl).trans ?_
      cases database.table space <;> rfl
  | _ => rfl

def createIndex (space : String) (arguments : List Value) : InPlace Database Unit := do
  let some name := arguments.head?.bind Value.text?
    | throw (.malformedArguments "create_index expects an index name")
  withTable space do
    let index ← check (readIndex (← get).space name (arguments.getD 1 (.map [])))
    modify fun table =>
      { table with space := { table.space with indexes := table.space.indexes ++ [index] } }

theorem createIndex_eq (apart : NamesApart database) (space : String) (arguments : List Value) :
    createIndex space arguments database =
      settled database (database.createIndex space arguments) fun after => ((), after) := by
  unfold createIndex Database.createIndex
  cases arguments.head?.bind Value.text? with
  | none => rfl
  | some name =>
      let change (table : Table) : Except Fault Table := do
        let index ← readIndex table.space name (arguments.getD 1 (.map []))
        return { table with space := { table.space with
          indexes := table.space.indexes ++ [index] } }
      refine (withTable_eq apart change (fun table => ((), table)) ?_).trans ?_
      · intro table
        apply check_bind
        intro index _
        rfl
      · cases database.table space with
        | error fault => rfl
        | ok table =>
            simp only [ok_bind, change]
            cases readIndex table.space name (arguments.getD 1 (.map [])) <;> rfl

def runMethod (space method : String) (arguments : List Value) : InPlace Database Unit :=
  match method with
  | "truncate" => truncate space
  | "drop" => dropSpace space
  | "format" => setFormat space arguments
  | "create_index" => createIndex space arguments
  | _ => throw (.undefinedProcedure ("box.space." ++ space ++ ":" ++ method))

theorem runMethod_eq (apart : NamesApart database) (space method : String)
    (arguments : List Value) :
    runMethod space method arguments database =
      settled database (database.runMethod space method arguments) fun after => ((), after) := by
  unfold runMethod
  split
  · exact truncate_eq apart space
  · exact dropSpace_eq space database
  · exact setFormat_eq apart space arguments
  · exact createIndex_eq apart space arguments
  · unfold Database.runMethod
    split <;> first | contradiction | rfl

def evaluate (expression : String) : InPlace Database Unit :=
  let expression := strip expression
  match createdSpace? expression with
  | some name => createSpace { id := 0, name } []
  | none =>
      match (Text.dropSuffix? "()".toList expression).bind spaceMethod? with
      | some (space, method) => runMethod space method []
      | none => throw (.unsupportedExpression (String.ofList expression))

theorem evaluate_eq (apart : NamesApart database) (expression : String) :
    evaluate expression database =
      settled database (database.evaluate expression) fun after => ((), after) := by
  unfold evaluate Database.evaluate
  dsimp only
  cases createdSpace? (strip expression) with
  | some name => exact createSpace_eq { id := 0, name } [] database
  | none =>
      cases (Text.dropSuffix? "()".toList (strip expression)).bind spaceMethod? with
      | some method => exact runMethod_eq apart method.1 method.2 []
      | none => rfl

/-- A procedure counts its calls, also those which it answers with an error. -/
def callProcedure (name : String) (arguments : List Value) : InPlace Database (List Value) := do
  let (answer, database) := (← get).callProcedure name arguments
  set database
  check answer

def call (function : String) (arguments : List Value) : InPlace Database (List Value) :=
  match spaceMethod? function.toList with
  | some (space, method) => do
      runMethod space method arguments
      return []
  | none => callProcedure function arguments

def handle : (request : Request) → InPlace Database request.Answer
  | .space name => return ((← get).table? name).map Table.space
  | .refreshMetadata => return ()
  | .select space conditions => do
      check ((← get).table space >>= fun table => table.select conditions)
  | .insert space tuple => withTable space (insert tuple)
  | .replace space tuple => withTable space (replace tuple)
  | .update space key operations => withTable space (update key operations)
  | .upsert space tuple operations => withTable space (upsert tuple operations)
  | .delete space key => withTable space (delete key)
  | .truncate space => truncate space
  | .call function arguments => call function arguments
  | .eval expression _ => do
      evaluate expression
      return []

def reported : EStateM.Result Fault σ α → Except ClientError α × σ
  | .error fault state => (.error fault.toClientError, state)
  | .ok result state => (.ok result, state)

theorem reported_settled {work : InPlace Database β} {outcome : Except Fault α}
    {next : α → β × Database} (h : work database = settled database outcome next) :
    reported (work database) = database.commit outcome next := by
  rw [h]
  cases outcome <;> rfl

theorem reported_withTable (apart : NamesApart database) {work : InPlace Table α}
    {change : Table → Except Fault β} {last : β → α × Table}
    (h : ∀ table, work table = settled table (change table) last) :
    reported (withTable name work database) = database.onTable name change last :=
  reported_settled (withTable_eq apart change last h)

theorem reported_call (apart : NamesApart database) (function : String)
    (arguments : List Value) :
    reported (call function arguments database) =
      database.handle (.call function arguments) := by
  unfold call
  simp only [Database.handle]
  cases spaceMethod? function.toList with
  | some method =>
      exact reported_settled (answer_settled [] (runMethod_eq apart method.1 method.2 arguments))
  | none =>
      dsimp only
      unfold callProcedure
      rw [get_bind]
      cases database.callProcedure function arguments with
      | mk answer after => cases answer <;> rfl

/-- Overwritten where it stands, the database answers and ends as when a failure is undone. -/
theorem reported_handle (apart : NamesApart database) (request : Request) :
    reported (handle request database) = database.handle request := by
  cases request with
  | space name => rfl
  | refreshMetadata => rfl
  | select space conditions => exact reported_settled (check_settled database _)
  | insert space tuple => exact reported_withTable apart (insert_eq tuple)
  | replace space tuple => exact reported_withTable apart (replace_eq tuple)
  | update space key operations => exact reported_withTable apart (update_eq key operations)
  | upsert space tuple operations => exact reported_withTable apart (upsert_eq tuple operations)
  | delete space key => exact reported_withTable apart (delete_eq key)
  | truncate space => exact reported_settled (truncate_eq apart space)
  | call function arguments => exact reported_call apart function arguments
  | eval expression arguments =>
      exact reported_settled (answer_settled [] (evaluate_eq apart expression))

end InPlace

end TupleStore.Database
