import SubspaceOps.OperationModule
import SubspaceOps.Record.Setter

/-!
# Graphs of projects and of models

The common graph holds projects, tasks and a small web of entities, relations and observations. The
model graph holds the lineage of models, data sets, computations, fine-tuning, conversations and
sessions. A model keeps the hash of its parent in the parent tag, so the value shows among the
parents of the header too.
-/
namespace SubspaceOps.CommonGraph

open PayloadField

def project : RecordType := .plain "ProjectEvent" Operation.project
  [(named "project_id").needed, named "name", named "desc", named "status",
    (named "members").holding .list]
  [.of "set_project_info" ["project_id", "name", "desc", "members", "status"] []
      [("project_id", "project_id"), ("name", "name"), ("desc", "desc"), ("status", "status"),
       ("members", "members")]]

def task : RecordType := .plain "TaskEvent" Operation.task
  [(named "project_id").needed, (named "task_id").needed, named "title", named "assignee",
    named "status", named "deadline"]
  [.of "set_task_info" ["project_id", "task_id", "title", "assignee", "status", "deadline"] []
      [("project_id", "project_id"), ("task_id", "task_id"), ("title", "title"),
       ("assignee", "assignee"), ("status", "status"), ("deadline", "deadline")]]

def entity : RecordType := .plain "EntityEvent" Operation.entity
  [(named "entity_name").needed, named "entity_type"]
  [.of "set_entity_info" ["entity_name", "entity_type"] []
      [("entity_name", "entity_name"), ("entity_type", "entity_type")]]

def relation : RecordType := .plain "RelationEvent" Operation.relation
  [(named "from_entity").needed.under "from", (named "to_entity").needed.under "to",
    named "relation_type", (named "context").optional]
  [.of "set_relation_info" ["from_entity", "to_entity", "relation_type"] [("context", .text "")]
      [("from_entity", "from_entity"), ("to_entity", "to_entity"),
       ("relation_type", "relation_type"), ("context", "context")]]

def observation : RecordType := .plain "ObservationEvent" Operation.observation
  [(named "entity_name").needed, named "observation"]
  [.of "set_observation_info" ["entity_name", "observation"] []
      [("entity_name", "entity_name"), ("observation", "observation")]]

/-- Project work and a shared graph. -/
def operations : OperationModule where
  serial := 2
  name := "common_graph"
  package := "cip02"
  description := "Projects, tasks and a shared entity/relation graph"
  kinds := ⟨[(Kind.project, Operation.project), (Kind.task, Operation.task),
      (Kind.entity, Operation.entity), (Kind.relation, Operation.relation),
      (Kind.observation, Operation.observation)], by decide⟩
  records := [project, task, entity, relation, observation]
  declared := by decide

end SubspaceOps.CommonGraph

namespace SubspaceOps.ModelGraph

open PayloadField

def model : RecordType := .plain "ModelEvent" Operation.model
  [(named "parent_hash").under "parent", (named "contributions").under "contrib"]
  [.of "set_contributions" ["contributions"] []
      [("contributions", "contributions")],
    .of "set_parent" ["parent_hash"] []
      [("parent_hash", "parent_hash")]]

def dataset : RecordType := .plain "DatasetEvent" Operation.dataset
  [named "project_id", named "task_id", named "category", named "format",
    (named "contributors").holding .list]
  [.of "set_dataset_info" ["project_id", "task_id", "category", "format", "contributors"] []
      [("project_id", "project_id"), ("task_id", "task_id"), ("category", "category"),
       ("format", "format"), ("contributors", "contributors")]]

def compute : RecordType := .plain "ComputeEvent" Operation.compute
  [named "compute_type"]
  [.of "set_compute_type" ["compute_type"] []
      [("compute_type", "compute_type")]]

def algo : RecordType := .plain "AlgoEvent" Operation.algo
  [named "algo_type"]
  [.of "set_algo_type" ["algo_type"] []
      [("algo_type", "algo_type")]]

def valid : RecordType := .plain "ValidEvent" Operation.valid
  [named "valid_result"]
  [.of "set_valid_result" ["valid_result"] []
      [("valid_result", "valid_result")]]

def finetune : RecordType := .plain "FinetuneEvent" Operation.finetune
  [named "project_id", named "task_id", (named "dataset_id").needed, named "provider_id",
    (named "model_name").needed]
  [.of "set_finetune_info" ["project_id", "task_id", "dataset_id", "provider_id", "model_name"] []
      [("project_id", "project_id"), ("task_id", "task_id"), ("dataset_id", "dataset_id"),
       ("provider_id", "provider_id"), ("model_name", "model_name")]]

def conversation : RecordType := .plain "ConversationEvent" Operation.conversation
  [(named "session_id").needed, named "user_id", named "model_id", named "timestamp",
    named "interaction_hash"]
  [.of "set_conversation_info"
      ["session_id", "user_id", "model_id", "timestamp", "interaction_hash"] []
      [("session_id", "session_id"), ("user_id", "user_id"), ("model_id", "model_id"),
       ("timestamp", "timestamp"), ("interaction_hash", "interaction_hash")]]

def session : RecordType := .plain "SessionEvent" Operation.session
  [(named "session_id").needed, (named "action").needed, named "user_id", named "start_time",
    (named "end_time").optional]
  [.of "set_session_info" ["session_id", "action", "user_id", "start_time"] [("end_time", .text "")]
      [("session_id", "session_id"), ("action", "action"), ("user_id", "user_id"),
       ("start_time", "start_time"), ("end_time", "end_time")]]

/-- Records about models and their use. -/
def operations : OperationModule where
  serial := 3
  name := "model_graph"
  package := "cip03"
  description := "Model lineage, datasets, compute and fine-tuning records"
  kinds := ⟨[(Kind.model, Operation.model), (Kind.dataset, Operation.dataset),
      (Kind.compute, Operation.compute), (Kind.algo, Operation.algo),
      (Kind.valid, Operation.valid), (Kind.finetune, Operation.finetune),
      (Kind.conversation, Operation.conversation), (Kind.session, Operation.session)], by decide⟩
  records := [model, dataset, compute, algo, valid, finetune, conversation, session]
  declared := by decide

end SubspaceOps.ModelGraph
