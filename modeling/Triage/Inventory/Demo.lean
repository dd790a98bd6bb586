import Triage.Inventory.Images
import Triage.Severity
import Triage.Text.Pieces

/-!
# Demonstration data

A made-up cluster and made-up scan results, so that the program can be tried without access to a
registry. The vulnerabilities are real ones, so the intelligence sources know them. What a scan
finds depends on words in the name of the repository.
-/
namespace Triage.Inventory.Demo

/-- The finding of a package in a demonstration image. -/
def finding (cve package version ecosystem : String) (severity : Severity) (vector fixed : String) :
    Finding :=
  { cve, package, version, ecosystem
    severity := severity.name
    cvssVector := vector
    remediation := if fixed = "" then none else some { fixedVersion := fixed, source := "ecr" } }

def webServer : List Finding := [
  finding "CVE-2023-44487" "nginx" "1.21.6" "deb" .high
    "CVSS:3.1/AV:N/AC:L/PR:N/UI:N/S:U/C:N/I:N/A:H" "1.25.3",
  finding "CVE-2023-4863" "libwebp7" "1.2.4-0.2" "deb" .high
    "CVSS:3.1/AV:N/AC:L/PR:N/UI:R/S:U/C:H/I:H/A:H" "1.2.4-0.2+deb12u1",
  finding "CVE-2022-37434" "zlib1g" "1:1.2.11.dfsg-2" "deb" .critical
    "CVSS:3.1/AV:N/AC:L/PR:N/UI:N/S:U/C:H/I:H/A:H" ""]

def java : List Finding := [
  finding "CVE-2021-44228" "log4j-core" "2.14.1" "maven" .critical
    "CVSS:3.1/AV:N/AC:L/PR:N/UI:N/S:C/C:H/I:H/A:H" "",
  finding "CVE-2022-22965" "spring-beans" "5.3.17" "maven" .critical
    "CVSS:3.1/AV:N/AC:L/PR:N/UI:N/S:U/C:H/I:H/A:H" "5.3.18",
  finding "CVE-2022-42889" "commons-text" "1.9" "maven" .critical
    "CVSS:3.1/AV:N/AC:L/PR:N/UI:N/S:U/C:H/I:H/A:H" ""]

def database : List Finding := [
  finding "CVE-2023-2454" "postgresql-14" "14.7" "deb" .high
    "CVSS:3.1/AV:N/AC:L/PR:L/UI:N/S:U/C:H/I:H/A:H" "14.8",
  finding "CVE-2023-38545" "curl" "7.88.1" "deb" .critical
    "CVSS:3.1/AV:N/AC:L/PR:N/UI:N/S:U/C:H/I:H/A:H" "8.4.0"]

def python : List Finding := [
  finding "CVE-2023-32681" "requests" "2.28.1" "pip" .medium
    "CVSS:3.1/AV:N/AC:H/PR:N/UI:R/S:C/C:H/I:N/A:N" "",
  finding "CVE-2022-42969" "py" "1.11.0" "pip" .medium "" "",
  finding "CVE-2023-43804" "urllib3" "1.26.15" "pip" .high
    "CVSS:3.1/AV:N/AC:H/PR:H/UI:N/S:U/C:H/I:H/A:N" ""]

def node : List Finding := [
  finding "CVE-2022-25883" "semver" "7.3.7" "npm" .high
    "CVSS:3.1/AV:N/AC:L/PR:N/UI:N/S:U/C:N/I:N/A:H" "",
  finding "CVE-2021-23337" "lodash" "4.17.20" "npm" .high
    "CVSS:3.1/AV:N/AC:L/PR:H/UI:N/S:U/C:H/I:H/A:H" ""]

def generic : List Finding := [
  finding "CVE-2024-3094" "xz-utils" "5.6.0" "deb" .critical
    "CVSS:3.1/AV:N/AC:L/PR:N/UI:N/S:C/C:H/I:H/A:H" "5.6.1+really5.4.5",
  finding "CVE-2023-4911" "libc6" "2.36-9" "deb" .high
    "CVSS:3.1/AV:L/AC:L/PR:L/UI:N/S:U/C:H/I:H/A:H" "2.36-9+deb12u3"]

/-- What a scan of a repository with this name finds. -/
def profile (repository : String) : List Finding :=
  let mentions (words : List String) := words.any (Text.contains · repository)
  if mentions ["nginx", "web"] then webServer
  else if mentions ["java"] then java
  else if mentions ["postgres", "mysql", "database"] then database
  else if mentions ["python"] then python
  else if mentions ["node", "frontend"] then node
  else generic

def scan (uri : String) : Except Failure (List Finding) :=
  match Image.parse uri with
  | .error e => .error (.plain (e.message uri))
  | .ok ref => .ok ((profile ref.repository).map fun f => { f with source := uri })

/-- The scanner with made-up results. -/
def scanner (σ : Type) : Scanner σ where
  name := "mock-ecr"
  scan uri s := (scan uri, s)

/-! ## The cluster -/

/-- The registry of all images of the cluster. -/
def registry : String := "123456789012.dkr.ecr.us-east-1.amazonaws.com"

/-- An image of the cluster and the workload that runs it. -/
def sighting (image ns workload workloadType : String) : Image.Sighting :=
  ⟨registry ++ "/" ++ image, ns, workload, workloadType⟩

/-- The images of the cluster. One of them runs in two namespaces. -/
def cluster : List Image.Sighting := [
  sighting "web-frontend:v1.2.3" "production" "web-frontend" "Deployment",
  sighting "web-frontend:v1.2.3" "staging" "web-frontend" "Deployment",
  sighting "java-api:v2.1.0" "production" "java-api" "Deployment",
  sighting "postgres-db:14.9" "production" "postgres-db" "StatefulSet",
  sighting "python-worker:dev-abc123" "staging" "python-worker" "Deployment",
  sighting "node-frontend:staging" "staging" "node-frontend" "Deployment",
  sighting "log-agent:v3.4.1" "monitoring" "log-agent" "DaemonSet"]

def discoverer (σ : Type) : Discoverer σ where
  name := "mock-eks"
  discover s := (.ok cluster, s)
  covers := Text.startsWith (registry ++ "/")

end Triage.Inventory.Demo
