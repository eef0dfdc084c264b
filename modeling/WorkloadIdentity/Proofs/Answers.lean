import WorkloadIdentity.Proofs.Addresses
import WorkloadIdentity.Proofs.Members

namespace WorkloadIdentity

namespace Server

/-- The server after requests that have changed nothing. -/
def asking (s : Server) (asked : List Request) : Server := { s with log := asked ++ s.log }

theorem asking_asking (s : Server) (first second : List Request) :
    (s.asking first).asking second = s.asking (second ++ first) := by
  simp [asking]

/-- Nothing disturbs `t`, and it holds at the paths in sight what `s` holds there. -/
structure Shows (s : Server) (sight : String → Prop) (t : Server) : Prop where
  untroubled : t.troubles = []
  objects : ∀ path, sight path → t.objects.get? path = s.objects.get? path

variable {s t : Server} {sight : String → Prop} {path : String}

theorem shows_self (untroubled : s.troubles = []) : s.Shows sight s := ⟨untroubled, fun _ _ => rfl⟩

theorem Shows.asking (h : s.Shows sight t) (asked : List Request) :
    s.Shows sight (t.asking asked) :=
  ⟨h.untroubled, h.objects⟩

theorem answer_of_untroubled (untroubled : s.troubles = []) (r : Request) :
    s.answer r = (s.asking [r]).handle r := by
  obtain ⟨objects, version, troubles, log⟩ := s
  cases untroubled
  rfl

/-- What is answered to a fetch. -/
def fetched (s : Server) (path : String) : Reply :=
  match s.objects.get? path with
  | some object => .answer 200 (.value object)
  | none => if isCollection path then list (s.objectsBelow path) else notFound path

theorem answer_get (untroubled : s.troubles = []) (path : String) :
    s.answer { method := .get, path } =
      (s.fetched path, s.asking [{ method := .get, path }]) := by
  rw [answer_of_untroubled untroubled]
  unfold fetched
  dsimp only [handle]
  change (match s.objects.get? path with
    | some object => (Reply.answer 200 (.value object), s.asking _)
    | none => if isCollection path then (list (s.objectsBelow path), s.asking _)
        else (notFound path, s.asking _)) = _
  split
  · rfl
  · split <;> rfl

theorem fetched_of_some {object : Json} (there : s.objects.get? path = some object) :
    s.fetched path = .answer 200 (.value object) := by
  simp [fetched, there]

theorem fetched_of_none (single : isCollection path = false)
    (missing : s.objects.get? path = none) : s.fetched path = notFound path := by
  simp [fetched, single, missing]

theorem fetched_of_list (listed : isCollection path = true)
    (missing : s.objects.get? path = none) : s.fetched path = list (s.objectsBelow path) := by
  simp [fetched, listed, missing]

/-- Where a collection is found instead of an object, it is not read as one. -/
def ReadsNoList {α : Type} (read : Json → Option α) (path : String) : Prop :=
  isCollection path = true → ∀ items, Api.readReply read (list items) = .error .unreadable

/-- Servers that show the same object at a path are read alike there. -/
theorem Shows.readReply_fetched {α : Type} {read : Json → Option α} (shows : s.Shows sight t)
    (seen : sight path) (noList : ReadsNoList read path) :
    Api.readReply read (t.fetched path) = Api.readReply read (s.fetched path) := by
  have same := shows.objects path seen
  cases there : s.objects.get? path with
  | some object => rw [fetched_of_some there, fetched_of_some (same.trans there)]
  | none =>
    cases listed : isCollection path with
    | false => rw [fetched_of_none listed there, fetched_of_none listed (same.trans there)]
    | true =>
      rw [fetched_of_list listed there, fetched_of_list listed (same.trans there), noList listed,
        noList listed]

/-- An object is not created where one is. -/
theorem answer_post_of_taken (untroubled : s.troubles = []) {body object : Json}
    (taken : s.objects.get? (path ++ "/" ++ nameOf body) = some object) :
    s.answer { method := .post, path, body := some body } =
      (alreadyExists (path ++ "/" ++ nameOf body),
        s.asking [{ method := .post, path, body := some body }]) := by
  rw [answer_of_untroubled untroubled]
  have taken : (s.asking [{ method := .post, path, body := some body }]).objects.get?
      (path ++ "/" ++ nameOf body) = some object := taken
  simp only [handle, Option.getD_some, taken]

theorem answer_post_of_free (untroubled : s.troubles = []) {body : Json}
    (free : s.objects.get? (path ++ "/" ++ nameOf body) = none) :
    s.answer { method := .post, path, body := some body } =
      (s.asking [{ method := .post, path, body := some body }]).store
        (path ++ "/" ++ nameOf body) 201 body := by
  rw [answer_of_untroubled untroubled]
  have free : (s.asking [{ method := .post, path, body := some body }]).objects.get?
      (path ++ "/" ++ nameOf body) = none := free
  simp only [handle, Option.getD_some, free]

theorem answer_put (untroubled : s.troubles = []) {body object : Json}
    (there : s.objects.get? path = some object) :
    s.answer { method := .put, path, body := some body } =
      (s.asking [{ method := .put, path, body := some body }]).store path 200
        (keepStatus object body) := by
  rw [answer_of_untroubled untroubled]
  have there : (s.asking [{ method := .put, path, body := some body }]).objects.get? path =
      some object := there
  simp only [handle, Option.getD_some, there]

theorem answer_patch (untroubled : s.troubles = []) {body object : Json}
    (there : s.objects.get? path = some object) :
    s.answer { method := .patch, path := path ++ "/status", body := some body } =
      (s.asking [{ method := .patch, path := path ++ "/status", body := some body }]).store path 200
        (object.merge body) := by
  rw [answer_of_untroubled untroubled]
  have there : (s.asking [{ method := .patch, path := path ++ "/status", body := some body }]
      ).objects.get? path = some object := there
  simp only [handle, Option.getD_some, objectPath_status, there]

end Server

end WorkloadIdentity
