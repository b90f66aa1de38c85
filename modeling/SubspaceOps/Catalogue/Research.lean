import SubspaceOps.OperationModule
import SubspaceOps.Record.Setter

/-!
# Open research

Papers, annotations, reviews, analyses and discussions. Two kinds are reserved without a record
type.
-/
namespace SubspaceOps.OpenResearch

open PayloadField

def paper : RecordType := .plain "PaperEvent" Operation.paper
  [(named "doi").needed, named "paper_type", named "year", named "journal",
    (named "authors").holding .list, (named "keywords").holding .list]
  [.of "set_paper_info" ["doi", "paper_type", "authors", "keywords", "year", "journal"] []
      [("doi", "doi"), ("paper_type", "paper_type"), ("year", "year"), ("journal", "journal"),
       ("authors", "authors"), ("keywords", "keywords")]]

def annotation : RecordType := .plain "AnnotationEvent" Operation.annotation
  [(named "paper_id").needed, named "position", (named "annotation_type").under "type",
    (named "parent_id").optional.under "parent"]
  [.of "set_annotation_info" ["paper_id", "position", "annotation_type"] [("parent_id", .text "")]
      [("paper_id", "paper_id"), ("position", "position"), ("annotation_type", "annotation_type"),
       ("parent_id", "parent_id")]]

def review : RecordType := .plain "ReviewEvent" Operation.review
  [(named "paper_id").needed, named "rating", (named "aspects").holding .pairs]
  [.of "set_review_info" ["paper_id", "rating", "aspects"] []
      [("paper_id", "paper_id"), ("rating", "rating"), ("aspects", "aspects")]]

def aiAnalysis : RecordType := .plain "AIAnalysisEvent" Operation.aiAnalysis
  [(named "analysis_type").needed, named "prompt", (named "paper_ids").holding .list]
  [.of "set_ai_analysis_info" ["analysis_type", "paper_ids", "prompt"] []
      [("analysis_type", "analysis_type"), ("prompt", "prompt"), ("paper_ids", "paper_ids")]]

def discussion : RecordType := .plain "DiscussionEvent" Operation.discussion
  [(named "topic").needed, (named "parent_id").optional.under "parent",
    (named "references").holding .list]
  [.of "set_discussion_info" ["topic"] [("parent_id", .text ""), ("references", .items [])]
      [("topic", "topic"), ("parent_id", "parent_id"), ("references", "references")]]

/-- Work on papers. -/
def operations : OperationModule where
  serial := 4
  name := "open_research"
  package := "cip05"
  description := "Open research: papers, annotations, reviews and discussion"
  kinds := ⟨[(Kind.paper, Operation.paper), (Kind.annotation, Operation.annotation),
      (Kind.review, Operation.review), (Kind.aiAnalysis, Operation.aiAnalysis),
      (Kind.discussion, Operation.discussion), (Kind.readPaper, Operation.readPaper),
      (Kind.coCreatePaper, Operation.coCreatePaper)], by decide⟩
  records := [paper, annotation, review, aiAnalysis, discussion]
  declared := by decide

end SubspaceOps.OpenResearch
