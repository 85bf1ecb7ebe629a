import CloudOps.CommandLine.Command
import CloudOps.CommandLine.Outcome
import CloudOps.Service.Buckets
import CloudOps.Service.Databases
import CloudOps.Service.Tables
import CloudOps.Settings.Environment

/-!
# Carrying out commands

* `Surroundings`: what a command finds around it.
* `Job`: the output that comes before the first request, and the rest of the command as a program
  over services. `Invocation.job` is the job of a command.
* `Job.outcome`: what a command leaves behind when its program ends.
-/

namespace CloudOps

/-- What a command finds around it. -/
structure Surroundings where
  environment : Environment
  /-- The version of the clients of the services. -/
  version : String
  /-- How many pages of a listing may be asked for. -/
  pages : Nat
  readFile : String → Except Files.Failure ByteArray

/-- A line of output. -/
def outputLine (text : String) : String := text ++ "\n"

/-- Several lines of output. -/
def outputLines (texts : List String) : String := String.join (texts.map outputLine)

/-- A command. -/
structure Job where
  /-- What is printed before the first request. -/
  heading : String
  /-- The rest. It gives what is printed at the end, or the diagnostic of its failure. -/
  body : ServiceProgram (Except Message String)

namespace Job

/-- An action whose value is printed and whose failure is explained. -/
def report {α : Type} (action : ServiceAction α) (text : α → String)
    (explain : Error → Message) : ServiceProgram (Except Message String) :=
  action.run.bind fun
    | .ok value => .done (.ok (text value))
    | .error e => .done (.error (explain e))

/-- The message of a failure behind what was tried. -/
def tried (what : String) (e : Error) : Message := e.message.after (what ++ ": ")

/-- What a command leaves behind when the rest of it ends so. -/
def outcome (job : Job) : Program.Ending (Except Message String) → Outcome
  | .value (.ok text) => ⟨job.heading ++ text, .passed⟩
  | .value (.error message) => ⟨job.heading, .failed message⟩
  | .halted _ => ⟨job.heading, .broken⟩

end Job

/-- The region to use. -/
def Surroundings.region (s : Surroundings) (settings : ClientSettings) : String :=
  s.environment.region settings

/-- The client of the bucket service. With an endpoint of its own, buckets are addressed in the
path. -/
def ClientSettings.bucketService (settings : ClientSettings) : BucketService :=
  ⟨if settings.endpointUrl.isSome then .path else .virtualHost, settings.maxWait⟩

/-! ## The commands -/

/-- Prints the buckets. -/
def ListBucketsOptions.job (options : ListBucketsOptions) : Job where
  heading := ""
  body := Job.report (options.client.bucketService.run CloudOps.listBuckets)
    (fun buckets => outputLine "Buckets:" ++ outputLines (buckets.map BucketSummary.line))
    (Job.tried "Got an error retrieving buckets")

/-- Prints the keys of a bucket. -/
def ListObjectsOptions.job (options : ListObjectsOptions) (s : Surroundings) : Job where
  heading := outputLine "" ++
    if options.verbose then
      outputLines ["S3 client version: " ++ s.version,
        "Region:            " ++ s.region options.client,
        "Bucket:            " ++ options.bucket, ""]
    else ""
  body := Job.report (options.client.bucketService.run (listObjects s.pages options.bucket))
    outputLines (Job.tried ("Could not list objects in bucket " ++ options.bucket))

/-- Deletes a bucket, perhaps with its objects. -/
def DeleteBucketOptions.action (options : DeleteBucketOptions) (pages : Nat) :
    BucketAction String :=
  if options.empty then do
    let count : Nat ← emptyAndRemoveBucket pages options.bucket
    return outputLine ("Deleted " ++ count.repr ++ " objects")
  else do
    removeBucket options.bucket
    return ""

/-- Deletes a bucket and says so. -/
def DeleteBucketOptions.job (options : DeleteBucketOptions) (s : Surroundings) : Job where
  heading := ""
  body := Job.report (options.client.bucketService.run (options.action s.pages))
    (fun deleted => deleted ++ outputLine ("Deleted bucket " ++ options.bucket))
    (Job.tried ("Could not delete bucket " ++ options.bucket))

/-- Gives a bucket a policy and says so. -/
def SetBucketPolicyOptions.job (options : SetBucketPolicyOptions) (s : Surroundings) : Job where
  heading := ""
  body := Job.report
    (options.client.bucketService.run
      (setBucketPolicy options.bucket (options.policy (s.region options.client))))
    (fun _ => outputLine ("Successfully set bucket " ++ Text.quoted options.bucket ++ "'s policy"))
    (policyFailureText options.bucket)

/-- Stores a file and says so. -/
def UploadFileOptions.job (options : UploadFileOptions) (s : Surroundings) : Job where
  heading := ""
  body := Job.report
    (options.client.bucketService.run
      (CloudOps.uploadFile (s.readFile options.file) options.bucket options.key options.file))
    (fun _ => outputLine ("Uploaded " ++ Text.quoted options.file ++ " to bucket "
      ++ options.bucket ++ " with key " ++ options.key))
    (Job.tried ("Unable to upload " ++ Text.quoted options.file ++ " to " ++ options.bucket ++ "/"
      ++ options.key))

/-- Looks up a movie and prints what was found. -/
def ReadItemOptions.job (options : ReadItemOptions) : Job where
  heading := ""
  body := Job.report
    (TableService.run (getMovie options.table options.year options.title))
    (fun movie => outputLine (Movie.describe options.year options.title movie))
    (Job.tried "Got error calling GetItem")

/-- Prints the parameter groups. -/
def CatalogOptions.groupsJob (options : CatalogOptions) (s : Surroundings) : Job where
  heading := ""
  body := Job.report (DatabaseService.run s.pages listParameterGroups)
    (fun groups =>
      (if options.verbose then
        outputLines ["Found " ++ groups.length.repr ++ " parameter groups", ""]
      else "") ++ outputLines (groups.map ParameterGroup.text))
    (Job.tried "Could not retrieve parameter groups")

/-- Prints the clusters. -/
def CatalogOptions.clustersJob (options : CatalogOptions) (s : Surroundings) : Job where
  heading := outputLine "" ++
    if options.verbose then
      outputLines ["RDS client version: " ++ s.version,
        "Region:             " ++ s.region options.client, ""]
    else ""
  body := Job.report (DatabaseService.run s.pages describeClusters)
    (fun clusters => outputLines (clusters.map Cluster.text))
    (Job.tried "Could not describe clusters")

/-- The job of a command. -/
def Invocation.job (s : Surroundings) : Invocation → Job
  | .listBuckets options => options.job
  | .listObjects options => options.job s
  | .deleteBucket options => options.job s
  | .setBucketPolicy options => options.job s
  | .uploadFile options => options.job s
  | .readItem options => options.job
  | .listParameterGroups options => options.groupsJob s
  | .describeClusters options => options.clustersJob s

end CloudOps
