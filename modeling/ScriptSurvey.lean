import ScriptSurvey.Main
import ScriptSurvey.Proofs.BoundValues
import ScriptSurvey.Proofs.BraceChoices
import ScriptSurvey.Proofs.ClassMembers
import ScriptSurvey.Proofs.CloseNames
import ScriptSurvey.Proofs.CountedDecisions
import ScriptSurvey.Proofs.DetectedSets
import ScriptSurvey.Proofs.DuplicateMethods
import ScriptSurvey.Proofs.ErrorLines
import ScriptSurvey.Proofs.FilePreference
import ScriptSurvey.Proofs.GraphReplies
import ScriptSurvey.Proofs.HealthScores
import ScriptSurvey.Proofs.KeptGraphs
import ScriptSurvey.Proofs.LeastSeverity
import ScriptSurvey.Proofs.LegendCodes
import ScriptSurvey.Proofs.LexicalPaths
import ScriptSurvey.Proofs.LiveHits
import ScriptSurvey.Proofs.LivenessReferences
import ScriptSurvey.Proofs.MemberAddresses
import ScriptSurvey.Proofs.NameLookup
import ScriptSurvey.Proofs.NearestClasses
import ScriptSurvey.Proofs.NestedMarkup
import ScriptSurvey.Proofs.NormalPaths
import ScriptSurvey.Proofs.RedundantPackages
import ScriptSurvey.Proofs.RequiredNames
import ScriptSurvey.Proofs.SimilarPairs
import ScriptSurvey.Proofs.StableRoots
import ScriptSurvey.Proofs.TagPlaces
import ScriptSurvey.Proofs.UnknownFields
import ScriptSurvey.Proofs.UnusedLocals
